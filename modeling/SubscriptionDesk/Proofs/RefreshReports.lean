import SubscriptionDesk.Proofs.CacheLaws

/-!
# What a refresh reports

One who refreshes waits for the answers of four workers, and takes them in one by one as they come,
until none is missing or the time is up. What he reports and what he leaves in the cache are kept in
different places, and both are filled on the way. Both depend on nothing but which answers have come
in time: each answer settles the facet that it is for and no other.
-/

namespace SubscriptionDesk

/-! ### Reports -/

namespace RefreshReport

variable {refreshed : Bool} {first second : List (Facet × FacetOutcome)} {facet : Facet}

theorem outcome?_ofList_append :
    (ofList refreshed (first ++ second)).outcome? facet =
      ((ofList refreshed second).outcome? facet).or ((ofList refreshed first).outcome? facet) := by
  simp [ofList, List.find?_append, Option.map_or]

theorem outcome?_ofList_of_notMem (hfacet : facet ∉ first.map Prod.fst) :
    (ofList refreshed first).outcome? facet = none := by
  have hnone : (first.reverse.find? fun entry => decide (entry.1 = facet)) = none := by
    rw [List.find?_eq_none]
    intro entry hentry htest
    exact hfacet (List.mem_map.mpr ⟨entry, List.mem_reverse.mp hentry, by simpa using htest⟩)
  exact congrArg (Option.map Prod.snd) hnone

theorem outcome?_ofList_of_mem {outcome : FacetOutcome} (honce : (first.map Prod.fst).Nodup)
    (hmem : (facet, outcome) ∈ first) :
    (ofList refreshed first).outcome? facet = some outcome := by
  induction first with
  | nil => exact absurd hmem List.not_mem_nil
  | cons head rest ih =>
      obtain ⟨hhead, hrest⟩ := List.nodup_cons.mp honce
      rw [← List.singleton_append, outcome?_ofList_append]
      rcases List.mem_cons.mp hmem with rfl | hmem
      · rw [outcome?_ofList_of_notMem hhead]
        simp [ofList]
      · rw [ih hrest hmem, Option.some_or]

theorem outcome?_ofList_timedOut {facets : List Facet} (hfacet : facet ∈ facets) :
    (ofList refreshed (facets.map fun other => (other, .timedOut))).outcome? facet =
      some .timedOut := by
  induction facets with
  | nil => exact absurd hfacet List.not_mem_nil
  | cons head rest ih =>
      rw [List.map_cons, ← List.singleton_append, outcome?_ofList_append]
      by_cases hrest : facet ∈ rest
      · rw [ih hrest, Option.some_or]
      · obtain rfl : facet = head := (List.mem_cons.mp hfacet).resolve_right hrest
        rw [outcome?_ofList_of_notMem (by simpa [Function.comp_def] using hrest)]
        simp [ofList]

theorem ofList_congr
    (hsame : ∀ facet, (ofList refreshed first).outcome? facet =
      (ofList refreshed second).outcome? facet) :
    ofList refreshed first = ofList refreshed second :=
  congrArg (RefreshReport.mk refreshed) (funext hsame)

theorem incomplete_eq (report : RefreshReport) :
    report.incomplete = Facet.all.filter fun facet =>
      (report.outcome? facet).any fun outcome => !outcome.isLoaded := by
  unfold incomplete outcomes
  generalize Facet.all = facets
  induction facets with
  | nil => rfl
  | cons facet rest ih =>
      cases houtcome : report.outcome? facet with
      | none => simpa [houtcome] using ih
      | some outcome =>
          cases hloaded : outcome.isLoaded <;> simpa [houtcome, hloaded] using ih

theorem isComplete_iff (report : RefreshReport) :
    report.isComplete = true ↔ report.incomplete = [] := by
  unfold isComplete incomplete
  rw [List.map_eq_nil_iff, List.filter_eq_nil_iff, List.all_eq_true]
  refine forall₂_congr fun entry _ => ?_
  rw [Bool.not_eq_true, Bool.not_eq_false']

theorem map_fst_outcomes {report : RefreshReport} (hall : ∀ facet, report.outcome? facet ≠ none) :
    report.outcomes.map Prod.fst = Facet.all := by
  unfold outcomes
  generalize Facet.all = facets
  induction facets with
  | nil => rfl
  | cons facet rest ih =>
      obtain ⟨outcome, houtcome⟩ := Option.ne_none_iff_exists'.mp (hall facet)
      simpa [houtcome] using ih

end RefreshReport

namespace MetadataCache

/-! ### Answers that are all taken in -/

def Arrival.outcome (arrival : Arrival) : FacetOutcome :=
  match arrival.answer with
  | .error fault => .failed fault.message
  | .ok entries => .loaded entries.dedup.length

section AbsorbAll

variable {ticket : Ticket} {arrivals : List Arrival} {cache : MetadataCache} {facet : Facet}

theorem absorbAll_eq_with_slot (ticket : Ticket) (arrivals : List Arrival) (cache : MetadataCache) :
    ∃ slot, (absorbAll ticket arrivals cache).2 = { cache with slot := slot } := by
  induction arrivals generalizing cache with
  | nil => exact ⟨cache.slot, rfl⟩
  | cons arrival rest ih =>
      obtain ⟨slot, hlater⟩ := ih (cache.absorb ticket arrival)
      obtain ⟨_, hfirst⟩ := absorb_eq_with_slot cache ticket arrival
      rw [hfirst] at hlater
      refine ⟨slot, ?_⟩
      unfold absorbAll
      rw [hfirst]
      exact hlater

theorem outcomes_absorbAll (hcurrent : cache.generation = ticket.generation) :
    (absorbAll ticket arrivals cache).1 =
      arrivals.map fun arrival => (arrival.facet, arrival.outcome) := by
  induction arrivals generalizing cache with
  | nil => rfl
  | cons arrival rest ih =>
      have hlater : (absorbAll ticket rest (cache.absorb ticket arrival)).1 =
          rest.map fun arrival => (arrival.facet, arrival.outcome) :=
        ih (generation_absorb.trans hcurrent)
      have hfirst : cache.outcome ticket arrival = arrival.outcome := by
        obtain ⟨facet, fault | entries⟩ := arrival
        · rfl
        · refine (if_pos hcurrent).trans ?_
          rw [AscendingSet.size_ofList]
          rfl
      unfold absorbAll
      rw [List.map_cons, ← hlater, ← hfirst]

theorem slot_absorbAll_of_notMem (hfacet : facet ∉ arrivals.map Arrival.facet) :
    (absorbAll ticket arrivals cache).2.slot facet = cache.slot facet := by
  induction arrivals generalizing cache with
  | nil => rfl
  | cons arrival rest ih =>
      obtain ⟨hfirst, hrest⟩ := not_or.mp (List.mem_cons.not.mp hfacet)
      change (absorbAll ticket rest (cache.absorb ticket arrival)).2.slot facet = _
      rw [ih hrest, slot_absorb_of_ne (Ne.symm hfirst)]

theorem slot_absorbAll_of_mem {answer : Except MetadataFault (List (Name facet.role))}
    (hcurrent : cache.generation = ticket.generation)
    (honce : (arrivals.map Arrival.facet).Nodup) (hmem : ⟨facet, answer⟩ ∈ arrivals) :
    (absorbAll ticket arrivals cache).2.slot facet =
      (answer.toOption.map AscendingSet.ofList).or (cache.slot facet) := by
  induction arrivals generalizing cache with
  | nil => exact absurd hmem List.not_mem_nil
  | cons arrival rest ih =>
      obtain ⟨hfirst, hrest⟩ := List.nodup_cons.mp honce
      change (absorbAll ticket rest (cache.absorb ticket arrival)).2.slot facet = _
      rcases List.mem_cons.mp hmem with rfl | hmem
      · rw [slot_absorbAll_of_notMem hfirst, slot_absorb_self hcurrent]
      · have hother : arrival.facet ≠ facet := by
          intro heq
          exact hfirst (heq ▸ List.mem_map_of_mem hmem)
        rw [ih (generation_absorb.trans hcurrent) hrest hmem, slot_absorb_of_ne hother]

end AbsorbAll

section FinishRefresh

variable {ticket : Ticket} {arrivals others : List Arrival} {cache : MetadataCache} {facet : Facet}

theorem outcome?_arrivals {refreshed : Bool}
    {answer : Except MetadataFault (List (Name facet.role))}
    (honce : (arrivals.map Arrival.facet).Nodup) (hmem : ⟨facet, answer⟩ ∈ arrivals) :
    (RefreshReport.ofList refreshed
        (arrivals.map fun arrival => (arrival.facet, arrival.outcome))).outcome? facet =
      some (Arrival.outcome ⟨facet, answer⟩) := by
  refine RefreshReport.outcome?_ofList_of_mem ?_ (List.mem_map_of_mem hmem)
  rw [List.map_map]
  exact honce

theorem outcome?_finishRefresh_of_mem {answer : Except MetadataFault (List (Name facet.role))}
    (hcurrent : cache.generation = ticket.generation)
    (honce : (arrivals.map Arrival.facet).Nodup) (hmem : ⟨facet, answer⟩ ∈ arrivals) :
    (cache.finishRefresh ticket arrivals).1.outcome? facet =
      some (Arrival.outcome ⟨facet, answer⟩) := by
  unfold finishRefresh
  dsimp only
  rw [outcomes_absorbAll hcurrent, RefreshReport.outcome?_ofList_append,
    outcome?_arrivals honce hmem, Option.some_or]

theorem outcome?_finishRefresh_of_notMem (hcurrent : cache.generation = ticket.generation)
    (hfacet : facet ∉ arrivals.map Arrival.facet) :
    (cache.finishRefresh ticket arrivals).1.outcome? facet = some .timedOut := by
  have hnone :
      facet ∉ (arrivals.map fun arrival => (arrival.facet, arrival.outcome)).map Prod.fst := by
    rw [List.map_map]
    exact hfacet
  unfold finishRefresh
  dsimp only
  rw [outcomes_absorbAll hcurrent, RefreshReport.outcome?_ofList_append,
    RefreshReport.outcome?_ofList_of_notMem hnone, Option.none_or,
    RefreshReport.outcome?_ofList_timedOut facet.mem_all]

theorem answered_or_not (arrivals : List Arrival) (facet : Facet) :
    (∃ answer, ⟨facet, answer⟩ ∈ arrivals) ∨ facet ∉ arrivals.map Arrival.facet := by
  by_cases hfacet : facet ∈ arrivals.map Arrival.facet
  · obtain ⟨⟨_, answer⟩, hmem, rfl⟩ := List.mem_map.mp hfacet
    exact .inl ⟨answer, hmem⟩
  · exact .inr hfacet

/-- The order of the answers makes no difference. -/
theorem finishRefresh_perm (hcurrent : cache.generation = ticket.generation)
    (honce : (arrivals.map Arrival.facet).Nodup) (hperm : others.Perm arrivals) :
    cache.finishRefresh ticket others = cache.finishRefresh ticket arrivals := by
  have hfacets := hperm.map Arrival.facet
  have hothers : (others.map Arrival.facet).Nodup := hfacets.nodup_iff.mpr honce
  have hreport :
      (cache.finishRefresh ticket others).1 = (cache.finishRefresh ticket arrivals).1 := by
    refine RefreshReport.ofList_congr fun facet => ?_
    change (cache.finishRefresh ticket others).1.outcome? facet =
      (cache.finishRefresh ticket arrivals).1.outcome? facet
    rcases answered_or_not arrivals facet with ⟨answer, hmem⟩ | hfacet
    · rw [outcome?_finishRefresh_of_mem hcurrent honce hmem,
        outcome?_finishRefresh_of_mem hcurrent hothers (hperm.mem_iff.mpr hmem)]
    · rw [outcome?_finishRefresh_of_notMem hcurrent hfacet,
        outcome?_finishRefresh_of_notMem hcurrent (hfacets.mem_iff.not.mpr hfacet)]
  have hcache : (absorbAll ticket others cache).2 = (absorbAll ticket arrivals cache).2 := by
    obtain ⟨left, hleft⟩ := absorbAll_eq_with_slot ticket others cache
    obtain ⟨right, hright⟩ := absorbAll_eq_with_slot ticket arrivals cache
    have hslots : left = right := by
      funext facet
      have hsame : (absorbAll ticket others cache).2.slot facet =
          (absorbAll ticket arrivals cache).2.slot facet := by
        rcases answered_or_not arrivals facet with ⟨answer, hmem⟩ | hfacet
        · rw [slot_absorbAll_of_mem hcurrent honce hmem,
            slot_absorbAll_of_mem hcurrent hothers (hperm.mem_iff.mpr hmem)]
        · rw [slot_absorbAll_of_notMem hfacet,
            slot_absorbAll_of_notMem (hfacets.mem_iff.not.mpr hfacet)]
      rwa [hleft, hright] at hsame
    rw [hleft, hright, hslots]
  exact Prod.ext hreport hcache

end FinishRefresh

/-! ### Waiting for the answers -/

inductive Signal where
  | arrival (arrival : Arrival)
  | deadline

/-- Takes answers in until none is missing, the time is up or nobody is left who could answer. What
is missing then has timed out. -/
def await (ticket : Ticket) :
    List Signal → List Facet → MetadataCache → List (Facet × FacetOutcome) × MetadataCache
  | .arrival arrival :: rest, first :: others, cache =>
      let pending := (first :: others).filter fun facet => decide (facet ≠ arrival.facet)
      let (outcomes, after) := await ticket rest pending (cache.absorb ticket arrival)
      ((arrival.facet, cache.outcome ticket arrival) :: outcomes, after)
  | _, pending, cache => (pending.map fun facet => (facet, .timedOut), cache)

def readAwaiting (cache : MetadataCache) (dataType : DataType) (signals : List Signal) :
    RefreshReport × MetadataCache :=
  match cache.beginRefresh dataType with
  | none => (.unneeded, cache)
  | some (ticket, started) =>
      let (outcomes, after) := await ticket signals Facet.all started
      (.ofList true outcomes, after)

def heard : List Signal → List Arrival
  | .arrival arrival :: rest => arrival :: heard rest
  | _ => []

section Await

variable {ticket : Ticket} {signals : List Signal} {pending : List Facet} {cache : MetadataCache}

theorem heard_append_deadline {late : List Signal} :
    heard (signals ++ .deadline :: late) = heard signals := by
  induction signals with
  | nil => rfl
  | cons signal rest ih =>
      cases signal with
      | arrival arrival => exact congrArg (arrival :: ·) ih
      | deadline => rfl

/-- What is heard is absorbed, and what is not heard has timed out. -/
theorem await_eq (hpending : ∀ arrival ∈ heard signals, arrival.facet ∈ pending)
    (honce : ((heard signals).map Arrival.facet).Nodup) :
    await ticket signals pending cache =
      ((absorbAll ticket (heard signals) cache).1 ++
          (pending.filter fun facet => decide (facet ∉ (heard signals).map Arrival.facet)).map
            fun facet => (facet, .timedOut),
        (absorbAll ticket (heard signals) cache).2) := by
  induction signals generalizing pending cache with
  | nil => simp [await, heard, absorbAll]
  | cons signal rest ih =>
      cases signal with
      | deadline => simp [await, heard, absorbAll]
      | arrival arrival =>
          obtain ⟨hfirst, hrest⟩ := List.nodup_cons.mp honce
          have hleft : ∀ other ∈ heard rest,
              other.facet ∈ pending.filter fun facet => decide (facet ≠ arrival.facet) := by
            intro other hother
            have hne : other.facet ≠ arrival.facet := by
              intro heq
              exact hfirst (heq ▸ List.mem_map_of_mem hother)
            simpa [hne] using hpending other (List.mem_cons_of_mem arrival hother)
          cases pending with
          | nil => exact absurd (hpending arrival List.mem_cons_self) List.not_mem_nil
          | cons first others =>
              have hmissing (facet : Facet) :
                  (decide (facet ∉ (heard rest).map Arrival.facet) &&
                      decide (facet ≠ arrival.facet)) =
                    decide (facet ∉ (arrival :: heard rest).map Arrival.facet) := by
                by_cases hfacet : facet = arrival.facet <;> simp [hfacet]
              unfold await
              dsimp only
              rw [ih hleft hrest, List.filter_filter]
              simp only [hmissing]
              rfl

/-- The wait comes to the same as taking in all that is heard, and then looking what is missing. -/
theorem readAwaiting_eq_finishRefresh {dataType : DataType} {started : MetadataCache}
    (hbegin : cache.beginRefresh dataType = some (ticket, started))
    (hcurrent : started.generation = ticket.generation)
    (honce : ((heard signals).map Arrival.facet).Nodup) :
    cache.readAwaiting dataType signals = started.finishRefresh ticket (heard signals) := by
  let missing := Facet.all.filter fun facet =>
    decide (facet ∉ (heard signals).map Arrival.facet)
  have hawait : await ticket signals Facet.all started =
      ((absorbAll ticket (heard signals) started).1 ++
          missing.map fun facet => (facet, .timedOut),
        (absorbAll ticket (heard signals) started).2) :=
    await_eq (fun arrival _ => arrival.facet.mem_all) honce
  unfold readAwaiting
  rw [hbegin]
  dsimp only
  rw [hawait, outcomes_absorbAll hcurrent]
  refine Prod.ext (RefreshReport.ofList_congr fun facet => ?_) rfl
  change _ = (started.finishRefresh ticket (heard signals)).1.outcome? facet
  rw [RefreshReport.outcome?_ofList_append]
  rcases answered_or_not (heard signals) facet with ⟨answer, hmem⟩ | hfacet
  · have hnone :
        facet ∉ (missing.map fun facet => (facet, FacetOutcome.timedOut)).map Prod.fst := by
      have hheard : facet ∈ (heard signals).map Arrival.facet := List.mem_map_of_mem hmem
      simpa [missing, Function.comp_def] using fun _ => hheard
    rw [RefreshReport.outcome?_ofList_of_notMem hnone, outcome?_arrivals honce hmem,
      outcome?_finishRefresh_of_mem hcurrent honce hmem, Option.none_or]
  · have hmissing : facet ∈ missing := by simpa [missing, facet.mem_all] using hfacet
    rw [RefreshReport.outcome?_ofList_timedOut hmissing,
      outcome?_finishRefresh_of_notMem hcurrent hfacet, Option.some_or]

end Await

/-! ### The report and the cache -/

/-- What a refresh reports and leaves in the cache, by the answers that came in time. -/
structure FaithfulReport (answers : List Arrival) (report : RefreshReport) (after : MetadataCache) :
    Prop where
  refreshed : report.refreshed = true
  facets : report.outcomes.map Prod.fst = Facet.all
  loaded : ∀ facet count, report.outcome? facet = some (.loaded count) ↔
    ∃ entries, ⟨facet, .ok entries⟩ ∈ answers ∧ count = entries.dedup.length
  failed : ∀ facet message, report.outcome? facet = some (.failed message) ↔
    ∃ fault, ⟨facet, .error fault⟩ ∈ answers ∧ fault.message = message
  timedOut : ∀ facet, report.outcome? facet = some .timedOut ↔
    ∀ arrival ∈ answers, arrival.facet ≠ facet
  filled : ∀ facet entries, ⟨facet, .ok entries⟩ ∈ answers →
    ∃ names, after.slot facet = some names ∧ (∀ name, name ∈ names ↔ name ∈ entries) ∧
      names.size = entries.dedup.length
  unfilled : ∀ facet, (∀ count, report.outcome? facet ≠ some (.loaded count)) →
    after.slot facet = none
  incomplete : report.incomplete = Facet.all.filter fun facet => (after.slot facet).isNone
  isComplete : report.isComplete = true ↔ report.incomplete = []

inductive Settled (answers : List Arrival) (report : RefreshReport) (after : MetadataCache)
    (facet : Facet) : Prop where
  | loaded {entries : List (Name facet.role)} :
      ⟨facet, .ok entries⟩ ∈ answers →
      report.outcome? facet = some (.loaded entries.dedup.length) →
      after.slot facet = some (.ofList entries) → Settled answers report after facet
  | failed {fault : MetadataFault} :
      ⟨facet, .error fault⟩ ∈ answers →
      report.outcome? facet = some (.failed fault.message) →
      after.slot facet = none → Settled answers report after facet
  | timedOut :
      facet ∉ answers.map Arrival.facet →
      report.outcome? facet = some .timedOut →
      after.slot facet = none → Settled answers report after facet

section Report

variable {ticket : Ticket} {arrivals : List Arrival} {cache after : MetadataCache} {facet : Facet}
  {report : RefreshReport}

theorem settled_finishRefresh (hcurrent : cache.generation = ticket.generation)
    (hempty : cache.slot facet = none) (honce : (arrivals.map Arrival.facet).Nodup) :
    Settled arrivals (cache.finishRefresh ticket arrivals).1
      (cache.finishRefresh ticket arrivals).2 facet := by
  rcases answered_or_not arrivals facet with ⟨answer, hmem⟩ | hfacet
  · have houtcome := outcome?_finishRefresh_of_mem hcurrent honce hmem
    have hslot : (cache.finishRefresh ticket arrivals).2.slot facet =
        answer.toOption.map AscendingSet.ofList := by
      refine (slot_absorbAll_of_mem hcurrent honce hmem).trans ?_
      rw [hempty, Option.or_none]
    rcases answer with fault | entries
    · exact .failed hmem houtcome hslot
    · exact .loaded hmem houtcome hslot
  · exact .timedOut hfacet (outcome?_finishRefresh_of_notMem hcurrent hfacet)
      ((slot_absorbAll_of_notMem hfacet).trans hempty)

theorem answer_unique {first second : Except MetadataFault (List (Name facet.role))}
    (honce : (arrivals.map Arrival.facet).Nodup) (hfirst : ⟨facet, first⟩ ∈ arrivals)
    (hsecond : ⟨facet, second⟩ ∈ arrivals) : first = second := by
  have hsame := List.inj_on_of_nodup_map honce hfirst hsecond rfl
  exact eq_of_heq (Arrival.mk.inj hsame).2

namespace Settled

theorem outcome?_ne_none (hsettled : Settled arrivals report after facet) :
    report.outcome? facet ≠ none := by
  cases hsettled with
  | loaded _ houtcome | failed _ houtcome | timedOut _ houtcome => simp [houtcome]

theorem loaded_iff {count : Nat} (honce : (arrivals.map Arrival.facet).Nodup)
    (hsettled : Settled arrivals report after facet) :
    report.outcome? facet = some (.loaded count) ↔
      ∃ entries, ⟨facet, .ok entries⟩ ∈ arrivals ∧ count = entries.dedup.length := by
  constructor
  · intro hloaded
    cases hsettled with
    | @loaded entries hmem houtcome =>
        refine ⟨entries, hmem, ?_⟩
        simpa [houtcome] using hloaded.symm
    | failed _ houtcome | timedOut _ houtcome => simp [houtcome] at hloaded
  · rintro ⟨entries, hentries, rfl⟩
    cases hsettled with
    | loaded hmem houtcome =>
        obtain rfl := Except.ok.inj (answer_unique honce hmem hentries)
        exact houtcome
    | failed hmem => exact nomatch answer_unique honce hmem hentries
    | timedOut hfacet => exact absurd (List.mem_map_of_mem hentries) hfacet

theorem failed_iff {message : String} (honce : (arrivals.map Arrival.facet).Nodup)
    (hsettled : Settled arrivals report after facet) :
    report.outcome? facet = some (.failed message) ↔
      ∃ fault, ⟨facet, .error fault⟩ ∈ arrivals ∧ fault.message = message := by
  constructor
  · intro hfailed
    cases hsettled with
    | @failed fault hmem houtcome =>
        refine ⟨fault, hmem, ?_⟩
        simpa [houtcome] using hfailed
    | loaded _ houtcome | timedOut _ houtcome => simp [houtcome] at hfailed
  · rintro ⟨fault, hfault, rfl⟩
    cases hsettled with
    | failed hmem houtcome =>
        obtain rfl := Except.error.inj (answer_unique honce hmem hfault)
        exact houtcome
    | loaded hmem => exact nomatch answer_unique honce hmem hfault
    | timedOut hfacet => exact absurd (List.mem_map_of_mem hfault) hfacet

theorem timedOut_iff (hsettled : Settled arrivals report after facet) :
    report.outcome? facet = some .timedOut ↔ ∀ arrival ∈ arrivals, arrival.facet ≠ facet := by
  constructor
  · intro htimedOut arrival harrival heq
    cases hsettled with
    | timedOut hfacet => exact hfacet (heq ▸ List.mem_map_of_mem harrival)
    | loaded _ houtcome | failed _ houtcome => simp [houtcome] at htimedOut
  · intro hnone
    cases hsettled with
    | timedOut _ houtcome => exact houtcome
    | loaded hmem | failed hmem => exact absurd rfl (hnone _ hmem)

theorem slot_of_ok {entries : List (Name facet.role)} (honce : (arrivals.map Arrival.facet).Nodup)
    (hentries : ⟨facet, .ok entries⟩ ∈ arrivals) (hsettled : Settled arrivals report after facet) :
    after.slot facet = some (.ofList entries) := by
  cases hsettled with
  | loaded hmem _ hslot =>
      obtain rfl := Except.ok.inj (answer_unique honce hmem hentries)
      exact hslot
  | failed hmem => exact nomatch answer_unique honce hmem hentries
  | timedOut hfacet => exact absurd (List.mem_map_of_mem hentries) hfacet

theorem slot_of_not_loaded (hnone : ∀ count, report.outcome? facet ≠ some (.loaded count))
    (hsettled : Settled arrivals report after facet) : after.slot facet = none := by
  cases hsettled with
  | loaded _ houtcome => exact absurd houtcome (hnone _)
  | failed _ _ hslot | timedOut _ _ hslot => exact hslot

theorem isNone_slot (hsettled : Settled arrivals report after facet) :
    (after.slot facet).isNone = (report.outcome? facet).any fun outcome => !outcome.isLoaded := by
  cases hsettled with
  | loaded _ houtcome hslot | failed _ houtcome hslot | timedOut _ houtcome hslot =>
      rw [houtcome, hslot]
      rfl

end Settled

theorem FaithfulReport.of_settled (hrefreshed : report.refreshed = true)
    (honce : (arrivals.map Arrival.facet).Nodup)
    (hsettled : ∀ facet, Settled arrivals report after facet) :
    FaithfulReport arrivals report after where
  refreshed := hrefreshed
  facets := RefreshReport.map_fst_outcomes fun facet => (hsettled facet).outcome?_ne_none
  loaded facet _ := (hsettled facet).loaded_iff honce
  failed facet _ := (hsettled facet).failed_iff honce
  timedOut facet := (hsettled facet).timedOut_iff
  filled facet entries hentries :=
    ⟨_, (hsettled facet).slot_of_ok honce hentries, fun _ => AscendingSet.mem_ofList,
      AscendingSet.size_ofList entries⟩
  unfilled facet hnone := (hsettled facet).slot_of_not_loaded hnone
  incomplete := by
    rw [RefreshReport.incomplete_eq]
    exact List.filter_congr fun facet _ => (hsettled facet).isNone_slot.symm
  isComplete := RefreshReport.isComplete_iff report

/-- **A refresh reports what it does.** The answers may come in any order, and what comes after the
time is up makes no difference. -/
theorem faithfulReport_of_pending {dataType : DataType} {signals : List Signal}
    (hpending : cache.rereadPending = true) (honce : ((heard signals).map Arrival.facet).Nodup) :
    FaithfulReport (heard signals) (cache.readAwaiting dataType signals).1
        (cache.readAwaiting dataType signals).2 ∧
      (∀ others, (heard others).Perm (heard signals) →
        cache.readAwaiting dataType others = cache.readAwaiting dataType signals) ∧
      ∀ late, cache.readAwaiting dataType (signals ++ .deadline :: late) =
        cache.readAwaiting dataType signals := by
  have hbegin : cache.beginRefresh dataType =
      some (⟨dataType, cache.area, cache.generation + 1⟩,
        { cache with
          dataType := some dataType
          rereadPending := false
          generation := cache.generation + 1
          slot := fun _ => none }) :=
    if_pos hpending
  have hread (others : List Signal) (hothers : ((heard others).map Arrival.facet).Nodup) :=
    readAwaiting_eq_finishRefresh hbegin rfl hothers
  refine ⟨?_, ?_, ?_⟩
  · rw [hread signals honce]
    exact .of_settled rfl honce fun facet => settled_finishRefresh rfl rfl honce
  · intro others hperm
    have hothers := (hperm.map Arrival.facet).nodup_iff.mpr honce
    rw [hread signals honce, hread others hothers]
    exact finishRefresh_perm rfl honce hperm
  · intro late
    have hheard : heard (signals ++ .deadline :: late) = heard signals := heard_append_deadline
    rw [hread signals honce, hread _ (hheard ▸ honce), hheard]

end Report

/-- One facet is answered with repeats, one with a fault, one too late and one not at all. -/
def hurriedSignals : List Signal :=
  [.arrival ⟨.levels, .error ⟨"gone"⟩⟩,
    .arrival ⟨.providers, .ok [⟨"west"⟩, ⟨"east"⟩, ⟨"west"⟩]⟩,
    .deadline,
    .arrival ⟨.parameters, .ok [⟨"wind"⟩]⟩]

def hurriedCache : MetadataCache := MetadataCache.empty.fill .parameters (.ofList [⟨"old"⟩])

theorem faithfulReport_hurriedRead :
    hurriedCache.rereadPending = true ∧ ((heard hurriedSignals).map Arrival.facet).Nodup ∧
      FaithfulReport (heard hurriedSignals) (hurriedCache.readAwaiting ⟨"grid"⟩ hurriedSignals).1
        (hurriedCache.readAwaiting ⟨"grid"⟩ hurriedSignals).2 ∧
      (hurriedCache.readAwaiting ⟨"grid"⟩ hurriedSignals).1.outcomes =
        [(.providers, .loaded 2), (.dataSets, .timedOut), (.parameters, .timedOut),
          (.levels, .failed "metadata query failed: gone")] ∧
      Facet.all.filter (fun facet =>
          ((hurriedCache.readAwaiting ⟨"grid"⟩ hurriedSignals).2.slot facet).isSome) =
        [.providers] := by
  have hpending : hurriedCache.rereadPending = true := rfl
  have honce : ((heard hurriedSignals).map Arrival.facet).Nodup := by decide
  exact ⟨hpending, honce, (faithfulReport_of_pending hpending honce).1, by decide +kernel,
    by decide +kernel⟩

end MetadataCache

end SubscriptionDesk

import SubscriptionDesk.Proofs.Runs

/-!
# Laws of the registry

A registry is known from its lookups. Each operation on it is described by what it does to them, and
a run in which the registry has answered all calls to it leads from one registry to another.
-/

namespace SubscriptionDesk

/-- Whether a call goes to the registry, or has the caller of the desk make a change. -/
def Query.touches : Query → Bool
  | .registry _ => true
  | .carryOut _ => true
  | _ => false

def Untouched (events : List Event) : Prop := ∀ event ∈ events, event.query.touches = false

theorem Untouched.append {first second : List Event} (hfirst : Untouched first)
    (hsecond : Untouched second) : Untouched (first ++ second) :=
  List.forall_mem_append.mpr ⟨hfirst, hsecond⟩

namespace Registry

variable {registry : Registry} {record : Subscription} {batch : List Subscription}
  {name : SubscriptionName} {names : List SubscriptionName}

/-! ### Lookups -/

theorem find?_eq_some_iff :
    registry.find? name = some record ↔ record ∈ registry.records ∧ record.name = name := by
  obtain ⟨records, hrecords⟩ := registry
  change records.find? _ = some record ↔ record ∈ records ∧ record.name = name
  constructor
  · intro hfind
    exact ⟨List.mem_of_find?_eq_some hfind, by simpa using List.find?_some hfind⟩
  · rintro ⟨hmem, rfl⟩
    induction records with
    | nil => exact absurd hmem List.not_mem_nil
    | cons head rest ih =>
        obtain ⟨hhead, hrest⟩ := List.pairwise_cons.mp hrecords
        rcases List.mem_cons.mp hmem with rfl | hmem
        · simp
        · have hne : head.name ≠ record.name := by
            intro heq
            exact StrictTotalOrder.irrefl record.name (heq ▸ hhead record hmem)
          rw [List.find?_cons_of_neg (by simpa using hne)]
          exact ih hrest hmem

theorem mem_records_iff :
    record ∈ registry.records ↔ registry.find? record.name = some record :=
  (and_iff_left rfl).symm.trans find?_eq_some_iff.symm

theorem ext {other : Registry} (hfind : ∀ name, registry.find? name = other.find? name) :
    registry = other := by
  have hmem (record : Subscription) : record ∈ registry.records ↔ record ∈ other.records := by
    rw [mem_records_iff, mem_records_iff, hfind]
  have hnodup {records : List Subscription} (hrecords : ByName records) : records.Nodup := by
    refine List.Pairwise.imp ?_ hrecords
    rintro earlier later hlt rfl
    exact StrictTotalOrder.irrefl earlier.name hlt
  have hperm : registry.records.Perm other.records :=
    (List.perm_ext_iff_of_nodup (hnodup registry.byName) (hnodup other.byName)).mpr hmem
  -- The order of the names leaves only one way to list the records.
  have hrecords : registry.records = other.records :=
    hperm.eq_of_pairwise
      (fun _ _ _ _ hlt hgt => absurd (StrictTotalOrder.trans hlt hgt) (StrictTotalOrder.irrefl _))
      registry.byName other.byName
  obtain ⟨records, hfirst⟩ := registry
  obtain ⟨others, hsecond⟩ := other
  cases hrecords
  rfl

theorem find?_put :
    (registry.put record).find? name =
      if record.name = name then some record else registry.find? name := by
  obtain ⟨records, hrecords⟩ := registry
  change (place record records).find? _ = if record.name = name then _ else records.find? _
  clear hrecords
  induction records with
  | nil => by_cases hname : record.name = name <;> simp [place, hname]
  | cons head rest ih =>
      unfold place
      split
      · by_cases hname : record.name = name <;> simp [hname]
      · split
        · rename_i hlt
          by_cases hhead : head.name = name
          · have hname : record.name ≠ name := by
              rintro rfl
              exact StrictTotalOrder.irrefl _ (hhead ▸ hlt)
            simp [hhead, hname]
          · simpa [hhead] using ih
        · rename_i hge hle
          have heq : record.name = head.name := StrictTotalOrder.eq_of_not_lt hge hle
          by_cases hname : record.name = name
          · simp [hname]
          · simp [hname, ← heq]

/-! ### Changes to many records -/

def putAll (registry : Registry) (batch : List Subscription) : Registry := batch.foldl put registry

def without (registry : Registry) (names : List SubscriptionName) : Registry :=
  ⟨registry.records.filter fun record => decide (record.name ∉ names),
    registry.byName.sublist List.filter_sublist⟩

def flagged (registry : Registry) (names : List SubscriptionName) : Registry :=
  ⟨registry.records.map fun record =>
      if record.name ∈ names then { record with unscheduled := true } else record,
    by
      refine List.pairwise_map.mpr (registry.byName.imp ?_)
      intro earlier later hlt
      split <;> split <;> exact hlt⟩

/-- Of the records of one name in a batch the last stays. -/
theorem find?_putAll :
    (registry.putAll batch).find? name =
      (batch.reverse.find? fun record => decide (record.name = name)).or (registry.find? name) := by
  induction batch generalizing registry with
  | nil => rfl
  | cons head rest ih =>
      change ((registry.put head).putAll rest).find? name = _
      rw [ih, find?_put, List.reverse_cons, List.find?_append, Option.or_assoc]
      by_cases hhead : head.name = name <;> simp [hhead]

theorem find?_putAll_of_notMem (hname : name ∉ batch.map Subscription.name) :
    (registry.putAll batch).find? name = registry.find? name := by
  have hnone : (batch.reverse.find? fun record => decide (record.name = name)) = none := by
    rw [List.find?_eq_none]
    intro record hrecord htest
    exact hname (List.mem_map.mpr ⟨record, List.mem_reverse.mp hrecord, by simpa using htest⟩)
  rw [find?_putAll, hnone, Option.none_or]

theorem find?_without :
    (registry.without names).find? name = if name ∈ names then none else registry.find? name := by
  change (registry.records.filter _).find? _ = _
  rw [List.find?_filter]
  by_cases hname : name ∈ names
  · rw [if_pos hname, List.find?_eq_none]
    rintro record - htest
    obtain ⟨hnot, rfl⟩ : record.name ∉ names ∧ record.name = name := by simpa using htest
    exact hnot hname
  · rw [if_neg hname]
    refine congrArg (fun test => registry.records.find? test) (funext fun record => ?_)
    by_cases hrecord : record.name = name
    · simp [hrecord, hname]
    · simp [hrecord]

theorem find?_flagged :
    (registry.flagged names).find? name =
      (registry.find? name).map fun record =>
        if name ∈ names then { record with unscheduled := true } else record := by
  change (registry.records.map _).find? _ = _
  rw [List.find?_map]
  have htest : (fun record : Subscription => decide (record.name = name)) ∘
      (fun record => if record.name ∈ names then { record with unscheduled := true } else record) =
      fun record => decide (record.name = name) := by
    funext record
    simp only [Function.comp_apply]
    split <;> rfl
  rw [htest]
  refine Option.map_congr fun record hrecord => ?_
  have hfind : registry.find? name = some record := hrecord
  rw [(find?_eq_some_iff.mp hfind).2]

theorem flagged_nil : registry.flagged [] = registry :=
  ext fun name => by simp [find?_flagged]

theorem flagged_flagged {later : List SubscriptionName} :
    (registry.flagged names).flagged later = registry.flagged (names ++ later) := by
  refine ext fun name => ?_
  rw [find?_flagged, find?_flagged, find?_flagged, Option.map_map]
  refine Option.map_congr fun record _ => ?_
  by_cases hfirst : name ∈ names <;> by_cases hlater : name ∈ later <;>
    simp [hfirst, hlater]

theorem flagged_of_find?_eq_none (hfind : registry.find? name = none) :
    registry.flagged [name] = registry := by
  refine ext fun other => ?_
  rw [find?_flagged]
  by_cases hother : other = name
  · rw [hother, hfind]
    rfl
  · simp [hother]

theorem flagged_of_find?_eq_some (hfind : registry.find? name = some record) :
    registry.flagged [name] = registry.put { record with unscheduled := true } := by
  have hname : record.name = name := (find?_eq_some_iff.mp hfind).2
  refine ext fun other => ?_
  rw [find?_flagged, find?_put]
  by_cases hother : other = name
  · simp [hother, hfind, hname]
  · simp [hother, hname, Ne.symm hother]

theorem remove_eq_without : registry.remove name = registry.without [name] := by
  simp [remove, without]

theorem delete_eq_without :
    registry.delete batch = registry.without (batch.map Subscription.name) := by
  refine ext fun name => ?_
  rw [find?_without]
  unfold delete
  induction batch generalizing registry with
  | nil => simp
  | cons head rest ih =>
      rw [List.foldl_cons, ih, remove_eq_without, find?_without]
      by_cases hhead : name = head.name <;> simp [hhead]

/-! ### Answers to calls -/

theorem store_of_find?_eq_none (hfind : registry.find? record.name = none) :
    registry.store record = .ok (registry.put record) := by
  simp [store, hfind]

theorem update_of_find?_eq_some {stored : Subscription}
    (hfind : registry.find? record.name = some stored) :
    registry.update record = .ok (registry.put record) := by
  simp [update, hfind]

theorem eq_put_of_store {after : Registry} (hstore : registry.store record = .ok after) :
    after = registry.put record := by
  unfold store at hstore
  split at hstore
  · contradiction
  · exact (Except.ok.inj hstore).symm

theorem eq_putAll_of_updateAll {after : Registry}
    (hupdate : updateAll batch registry = (.ok (), after)) : after = registry.putAll batch := by
  induction batch generalizing registry with
  | nil => exact (congrArg Prod.snd hupdate).symm
  | cons head rest ih =>
      unfold updateAll update at hupdate
      split at hupdate
      · rename_i updated hhead
        split at hhead
        · cases hhead
          exact ih hupdate
        · contradiction
      · simp at hupdate

theorem updateAll_singleton :
    updateAll [record] registry = registry.attempted (registry.update record) := by
  cases hupdate : registry.update record <;> simp [updateAll, attempted, hupdate]

/-! ### The registry in a run -/

/-- Whether the registry answers the calls to it in a run, and what it comes to; the others may
answer anything. -/
def Serves : Registry → List Event → Registry → Prop
  | registry, [], after => after = registry
  | registry, ⟨.registry call, answer⟩ :: rest, after =>
      answer = (registry.serve call).1 ∧ Serves (registry.serve call).2 rest after
  | registry, _ :: rest, after => Serves registry rest after

variable {first second events : List Event} {after : Registry}

theorem serves_registry_cons {call : RegistryCall} {answer : call.Answer} :
    registry.Serves (⟨.registry call, answer⟩ :: events) after ↔
      answer = (registry.serve call).1 ∧ (registry.serve call).2.Serves events after := Iff.rfl

theorem serves_cons_of_not_touches {event : Event} (hevent : event.query.touches = false) :
    registry.Serves (event :: events) after ↔ registry.Serves events after := by
  obtain ⟨query, answer⟩ := event
  cases query with
  | registry | carryOut => contradiction
  | _ => exact Iff.rfl

theorem serves_append :
    registry.Serves (first ++ second) after ↔
      ∃ between, registry.Serves first between ∧ between.Serves second after := by
  induction first generalizing registry with
  | nil => simp [Serves]
  | cons event rest ih =>
      obtain ⟨query, answer⟩ := event
      cases query with
      | registry call =>
          simp only [List.cons_append, serves_registry_cons, ih]
          exact ⟨fun ⟨hanswer, between, hrest, hsecond⟩ => ⟨between, ⟨hanswer, hrest⟩, hsecond⟩,
            fun ⟨between, ⟨hanswer, hrest⟩, hsecond⟩ => ⟨hanswer, between, hrest, hsecond⟩⟩
      | _ => exact ih

theorem serves_cons {event : Event} :
    registry.Serves (event :: events) after ↔
      ∃ between, registry.Serves [event] between ∧ between.Serves events after := by
  rw [← List.singleton_append, serves_append]

theorem serves_store {user : UserId} {answer : Except RegistryFault Unit}
    (hserves : registry.Serves [⟨.registry (.store user record), answer⟩] after) :
    (registry.find? record.name = none ∧ answer = .ok () ∧ after = registry.put record) ∨
      ((∃ fault, answer = .error fault) ∧ after = registry) := by
  obtain ⟨hanswer, hafter⟩ := hserves
  change answer = (registry.attempted (registry.store record)).1 at hanswer
  change after = (registry.attempted (registry.store record)).2 at hafter
  cases hfind : registry.find? record.name with
  | none =>
      rw [store_of_find?_eq_none hfind] at hanswer hafter
      exact .inl ⟨rfl, hanswer, hafter⟩
  | some stored =>
      simp only [store, hfind] at hanswer hafter
      exact .inr ⟨⟨_, hanswer⟩, hafter⟩

theorem serves_update {user : UserId} {answer : Except RegistryFault Unit}
    (hserves : registry.Serves [⟨.registry (.update user record), answer⟩] after) :
    (answer = .ok () ∧ after = registry.put record) ∨
      ((∃ fault, answer = .error fault) ∧ after = registry) := by
  obtain ⟨hanswer, hafter⟩ := hserves
  change answer = (registry.attempted (registry.update record)).1 at hanswer
  change after = (registry.attempted (registry.update record)).2 at hafter
  cases hfind : registry.find? record.name with
  | none =>
      simp only [update, hfind] at hanswer hafter
      exact .inr ⟨⟨_, hanswer⟩, hafter⟩
  | some stored =>
      rw [update_of_find?_eq_some hfind] at hanswer hafter
      exact .inl ⟨hanswer, hafter⟩

theorem serves_iff_of_untouched (hevents : Untouched events) :
    registry.Serves events after ↔ after = registry := by
  induction events with
  | nil => exact Iff.rfl
  | cons event rest ih =>
      rw [serves_cons_of_not_touches (hevents event List.mem_cons_self)]
      exact ih fun other hother => hevents other (List.mem_cons_of_mem event hother)

theorem serves_untouched_append (hfirst : Untouched first) :
    registry.Serves (first ++ second) after ↔ registry.Serves second after := by
  rw [serves_append]
  constructor
  · rintro ⟨between, hbetween, hsecond⟩
    rwa [← (serves_iff_of_untouched hfirst).mp hbetween]
  · intro hsecond
    exact ⟨registry, (serves_iff_of_untouched hfirst).mpr rfl, hsecond⟩

variable {α σ : Type}

/-- A registry that answers the calls to it, among others that answer as they like. -/
def among (others : Dialogue.Respondent σ) : Dialogue.Respondent (Registry × σ)
  | .registry call, (registry, state) =>
      ((registry.serve call).1, (registry.serve call).2, state)
  | query, (registry, state) => ((others query state).1, registry, (others query state).2)

theorem serves_converse (others : Dialogue.Respondent σ) (dialogue : Dialogue α) (state : σ) :
    registry.Serves (dialogue.converse (among others) (registry, state)).1
      (dialogue.converse (among others) (registry, state)).2.2.1 := by
  induction dialogue generalizing registry state with
  | done result => rfl
  | ask query next ih =>
      cases query with
      | registry call => exact ⟨rfl, ih _ _⟩
      | _ => exact ih _ _

end Registry

end SubscriptionDesk

import Mathlib.Data.List.Induction
import SubscriptionDesk.MetadataSession
import SubscriptionDesk.Proofs.RefreshReports

/-!
# A cache asks only when it must

A history of a cache is told from outside: which calls were made, and how the source would answer
each of them if it were asked. What is asked depends on the whole history. It is enough to know
where the last refresh was: since then each facet has had at most one answer with entries, that
answer is what look-ups find, and a look-up asks just as long as there is none. Areas and requests
to reread make no difference until the next refresh.
-/

namespace SubscriptionDesk

open MetadataCache

/-- A call of a cache. With a read come the answers of the source in case that all facets are asked
for, in the order of their arrival, and with a look-up its answer in case that it is asked. -/
inductive CacheCall where
  | setArea (area : Option Envelope)
  | requestReread
  | read (dataType : DataType) (arrivals : List Arrival)
  | lookup (facet : Facet) (answer : Except MetadataFault (List (Name facet.role)))

namespace CacheCall

def isRead : CacheCall → Bool
  | .read _ _ => true
  | _ => false

def area? : CacheCall → Option (Option Envelope)
  | .setArea area => some area
  | _ => none

/-- Whether each query of a refresh is answered before the time is up. -/
def Timely : CacheCall → Prop
  | .read _ arrivals => (arrivals.map Arrival.facet).Perm Facet.all
  | _ => True

end CacheCall

def areaInForce (history : List CacheCall) : Option Envelope :=
  (history.filterMap CacheCall.area?).getLast?.join

/-- Whether a history has no read, or a request to reread after its last one. -/
def ReadDue (history : List CacheCall) : Prop :=
  (∀ call ∈ history, call.isRead = false) ∨
    ∃ before after, history = before ++ .requestReread :: after ∧
      ∀ call ∈ after, call.isRead = false

def MetadataCache.Arrival.entries? (facet : Facet) (arrival : Arrival) :
    Option (List (Name facet.role)) :=
  if hfacet : arrival.facet = facet then (hfacet ▸ arrival.answer).toOption else none

def answered (facet : Facet) (told : List Arrival) : List (List (Name facet.role)) :=
  told.filterMap (Arrival.entries? facet)

namespace MetadataCache

def asked (cache : MetadataCache) : CacheCall → List SourceCall
  | .read dataType _ =>
      match cache.beginRefresh dataType with
      | some (ticket, _) => Facet.all.map fun facet => ⟨facet, ticket.dataType, ticket.area⟩
      | none => []
  | .lookup facet _ =>
      match cache.lookup facet with
      | .missing ticket => [⟨facet, ticket.dataType, ticket.area⟩]
      | _ => []
  | _ => []

def told (cache : MetadataCache) : CacheCall → List Arrival
  | .read dataType arrivals =>
      match cache.beginRefresh dataType with
      | some _ => arrivals
      | none => []
  | .lookup facet answer =>
      match cache.lookup facet with
      | .missing _ => [⟨facet, answer⟩]
      | _ => []
  | _ => []

def react (cache : MetadataCache) : CacheCall → MetadataCache
  | .setArea area => cache.setArea area
  | .requestReread => cache.requestReread
  | .read dataType arrivals =>
      match cache.beginRefresh dataType with
      | some (ticket, started) => (started.finishRefresh ticket arrivals).2
      | none => cache
  | .lookup facet answer =>
      match cache.lookup facet with
      | .missing ticket => (cache.finishLookup ticket facet answer).2
      | _ => cache

def found (cache : MetadataCache) (facet : Facet)
    (answer : Except MetadataFault (List (Name facet.role))) : NameSet facet.role :=
  match cache.lookup facet with
  | .found names => names
  | .unselected => .empty
  | .missing ticket => (cache.finishLookup ticket facet answer).1

def play (cache : MetadataCache) (calls : List CacheCall) : MetadataCache :=
  calls.foldl react cache

/-- Gathers something from each of some calls, with the cache that the call finds. -/
def gather {α : Type} (part : MetadataCache → CacheCall → List α) (cache : MetadataCache) :
    List CacheCall → List α
  | [] => []
  | call :: rest => part cache call ++ gather part (cache.react call) rest

def askedIn : MetadataCache → List CacheCall → List SourceCall := gather asked

def toldIn : MetadataCache → List CacheCall → List Arrival := gather told

end MetadataCache

/-! ### Sessions are histories -/

namespace MetadataSession

variable {session : MetadataSession}

theorem get_eq_react {facet : Facet} {answer : Except MetadataFault (List (Name facet.role))}
    (hanswer : ∀ ticket, session.cache.lookup facet = .missing ticket →
      session.answer? ticket facet = some answer) :
    session.get facet =
      (some (session.cache.found facet answer),
        { session with
          cache := session.cache.react (.lookup facet answer)
          calls := session.calls ++ session.cache.asked (.lookup facet answer) }) := by
  cases hlookup : session.cache.lookup facet with
  | found names => simp [get, beginLookup, finishLookup, found, react, asked, hlookup]
  | unselected => simp [get, beginLookup, finishLookup, found, react, asked, hlookup]
  | missing ticket =>
      have hanswered : (session.withCalls ticket [facet]).answer? ticket facet = some answer :=
        hanswer ticket hlookup
      simp only [get, beginLookup, finishLookup, hlookup, hanswered]
      simp [found, react, asked, hlookup, withCalls]

theorem read_eq_react {dataType : DataType} {arrivals : List Arrival}
    (harrivals : ∀ ticket started, session.cache.beginRefresh dataType = some (ticket, started) →
      session.arrivals ticket Facet.all = arrivals) :
    (session.read dataType).2 =
      { session with
        cache := session.cache.react (.read dataType arrivals)
        calls := session.calls ++ session.cache.asked (.read dataType arrivals) } := by
  cases hbegin : session.cache.beginRefresh dataType with
  | none => simp [read, readBlocked, begin, finish, react, asked, hbegin]
  | some begun =>
      obtain ⟨ticket, started⟩ := begun
      have hall : (Facet.all.filter fun facet => !([] : List Facet).contains facet) = Facet.all :=
        rfl
      rw [← harrivals ticket started hbegin]
      simp only [read, readBlocked, begin, finish, react, asked, hbegin, hall]
      rfl

theorem timely_read {dataType : DataType} {ticket : Ticket}
    (halive : ∀ facet, session.dies facet = false) :
    (CacheCall.read dataType (session.arrivals ticket Facet.all)).Timely := by
  have hanswer (facet : Facet) : ∃ answer, session.answer? ticket facet = some answer := by
    unfold answer?
    rw [halive facet]
    cases session.failure facet with
    | none => exact ⟨_, rfl⟩
    | some reason => exact ⟨_, rfl⟩
  have hfacets (facets : List Facet) :
      (session.arrivals ticket facets).map Arrival.facet = facets := by
    induction facets with
    | nil => rfl
    | cons facet rest ih =>
        obtain ⟨answer, heq⟩ := hanswer facet
        simpa [arrivals, heq] using ih
  exact .of_eq (hfacets Facet.all)

end MetadataSession

namespace MetadataCache

/-! ### What a call changes -/

section React

variable {cache : MetadataCache} {dataType : DataType} {arrivals : List Arrival}

theorem beginRefresh_eq_none (hpending : cache.rereadPending = false) :
    cache.beginRefresh dataType = none := by
  simp [beginRefresh, hpending]

theorem beginRefresh_eq_some (hpending : cache.rereadPending = true) :
    cache.beginRefresh dataType =
      some (⟨dataType, cache.area, cache.generation + 1⟩,
        { cache with
          dataType := some dataType
          rereadPending := false
          generation := cache.generation + 1
          slot := fun _ => none }) :=
  if_pos hpending

theorem asked_read (hpending : cache.rereadPending = true) :
    cache.asked (.read dataType arrivals) =
      Facet.all.map fun facet => ⟨facet, dataType, cache.area⟩ := by
  simp [asked, beginRefresh_eq_some hpending]

theorem asked_read_eq_nil_iff :
    cache.asked (.read dataType arrivals) = [] ↔ cache.rereadPending = false := by
  cases hpending : cache.rereadPending with
  | false => simp [asked, beginRefresh_eq_none hpending]
  | true => simp [asked_read hpending, Facet.all]

theorem react_read_of_pending (dataType : DataType) (arrivals : List Arrival)
    (hpending : cache.rereadPending = true) :
    ∃ slot, cache.react (.read dataType arrivals) =
      ⟨some dataType, cache.area, false, cache.generation + 1, slot⟩ := by
  simp only [react, beginRefresh_eq_some hpending]
  exact absorbAll_eq_with_slot _ arrivals _

theorem react_read_of_not_pending (hpending : cache.rereadPending = false) :
    cache.react (.read dataType arrivals) = cache := by
  simp [react, beginRefresh_eq_none hpending]

theorem react_lookup_eq_with_slot (cache : MetadataCache) (facet : Facet)
    (answer : Except MetadataFault (List (Name facet.role))) :
    ∃ slot, cache.react (.lookup facet answer) = { cache with slot := slot } := by
  cases hlookup : cache.lookup facet with
  | found names | unselected => exact ⟨cache.slot, by simp [react, hlookup]⟩
  | missing ticket =>
      simp only [react, hlookup, finishLookup_eq_absorb]
      exact absorb_eq_with_slot cache ticket ⟨facet, answer⟩

end React

/-! ### What is known since a refresh -/

section Answered

variable {facet : Facet} {arrivals others : List Arrival}

theorem answered_append :
    answered facet (arrivals ++ others) = answered facet arrivals ++ answered facet others :=
  List.filterMap_append

theorem answered_single {answer : Except MetadataFault (List (Name facet.role))} :
    answered facet [⟨facet, answer⟩] = answer.toOption.toList := by
  cases answer with
  | error fault => simp [answered, Arrival.entries?, Except.toOption]
  | ok entries => simp [answered, Arrival.entries?, Except.toOption]

theorem answered_of_notMem (hfacet : facet ∉ arrivals.map Arrival.facet) :
    answered facet arrivals = [] := by
  refine List.filterMap_eq_nil_iff.mpr fun arrival harrival => dif_neg ?_
  intro heq
  exact hfacet (heq ▸ List.mem_map_of_mem harrival)

theorem answered_of_mem {answer : Except MetadataFault (List (Name facet.role))}
    (honce : (arrivals.map Arrival.facet).Nodup) (hmem : ⟨facet, answer⟩ ∈ arrivals) :
    answered facet arrivals = answer.toOption.toList := by
  obtain ⟨before, after, rfl⟩ := List.append_of_mem hmem
  rw [List.map_append, List.map_cons, List.nodup_middle] at honce
  obtain ⟨hbefore, hafter⟩ : facet ∉ before.map Arrival.facet ∧ facet ∉ after.map Arrival.facet :=
    not_or.mp (List.mem_append.not.mp (List.nodup_cons.mp honce).1)
  rw [← List.singleton_append, answered_append, answered_append, answered_single,
    answered_of_notMem hbefore, answered_of_notMem hafter, List.nil_append, List.append_nil]

end Answered

/-- What is known of a cache that was refreshed and then has been told some answers: a facet is
populated by its one answer with entries, if there is one. -/
structure Holds (cache : MetadataCache) (dataType : DataType) (known : List Arrival) : Prop where
  selected : cache.dataType = some dataType
  slots : ∀ facet, (answered facet known).map .ofList = (cache.slot facet).toList

section Holds

variable {cache : MetadataCache} {dataType : DataType} {arrivals known : List Arrival}
  {facet : Facet}

/-- A refresh forgets what was known before. -/
theorem holds_refresh (hpending : cache.rereadPending = true)
    (honce : (arrivals.map Arrival.facet).Nodup) :
    (cache.react (.read dataType arrivals)).Holds dataType
      (cache.told (.read dataType arrivals)) := by
  constructor
  case selected =>
    obtain ⟨slot, heq⟩ := react_read_of_pending dataType arrivals hpending
    rw [heq]
  case slots =>
    intro facet
    simp only [MetadataCache.react, told, beginRefresh_eq_some hpending]
    rcases answered_or_not arrivals facet with ⟨answer, hmem⟩ | hfacet
    · rw [answered_of_mem honce hmem, ← Option.toList_map]
      refine congrArg Option.toList ?_
      exact ((slot_absorbAll_of_mem rfl honce hmem).trans Option.or_none).symm
    · rw [answered_of_notMem hfacet]
      exact congrArg Option.toList (slot_absorbAll_of_notMem hfacet : _ = none).symm

theorem lookup_of_slot {names : NameSet facet.role}
    (hslot : cache.slot facet = some names) : cache.lookup facet = .found names := by
  simp [lookup, hslot]

theorem Holds.lookup_of_none (hholds : cache.Holds dataType known)
    (hslot : cache.slot facet = none) :
    cache.lookup facet = .missing ⟨dataType, cache.area, cache.generation⟩ := by
  simp [lookup, hslot, hholds.selected]

/-- No call but a refresh makes anything of it unknown. -/
theorem Holds.react {call : CacheCall} (hholds : cache.Holds dataType known)
    (hquiet : call.isRead = true → cache.asked call = []) :
    (cache.react call).Holds dataType (known ++ cache.told call) := by
  cases call with
  | setArea area | requestReread =>
      have hknown : known ++ [] = known := List.append_nil known
      exact ⟨hholds.selected, hknown.symm ▸ hholds.slots⟩
  | read other arrivals =>
      have hpending : cache.rereadPending = false := asked_read_eq_nil_iff.mp (hquiet rfl)
      simpa [MetadataCache.react, told, beginRefresh_eq_none hpending] using hholds
  | lookup facet answer =>
      cases hslot : cache.slot facet with
      | some names =>
          simpa [MetadataCache.react, told, lookup_of_slot hslot] using hholds
      | none =>
          have hlookup := hholds.lookup_of_none hslot
          have hreact : cache.react (.lookup facet answer) =
              cache.absorb ⟨dataType, cache.area, cache.generation⟩ ⟨facet, answer⟩ := by
            simp only [MetadataCache.react, hlookup, finishLookup_eq_absorb]
          have htold : cache.told (.lookup facet answer) = [⟨facet, answer⟩] := by
            simp only [told, hlookup]
          rw [hreact, htold]
          constructor
          case selected => rw [dataType_absorb, hholds.selected]
          case slots =>
            intro other
            rw [answered_append, List.map_append, hholds.slots other]
            by_cases hother : facet = other
            · subst hother
              rw [answered_single, slot_absorb_self rfl, hslot, Option.or_none, Option.toList_map]
              rfl
            · rw [answered_of_notMem (by simpa using Ne.symm hother), slot_absorb_of_ne hother,
                List.map_nil, List.append_nil]

end Holds

/-! ### What is known of a history -/

section History

variable {cache : MetadataCache} {history since : List CacheCall} {call : CacheCall}
  {dataType : DataType} {arrivals : List Arrival}

theorem play_append {calls others : List CacheCall} :
    cache.play (calls ++ others) = (cache.play calls).play others :=
  List.foldl_append

theorem gather_single {α : Type} {part : MetadataCache → CacheCall → List α} :
    gather part cache [call] = part cache call :=
  List.append_nil _

theorem gather_append {α : Type} {part : MetadataCache → CacheCall → List α}
    {calls others : List CacheCall} :
    gather part cache (calls ++ others) =
      gather part cache calls ++ gather part (cache.play calls) others := by
  induction calls generalizing cache with
  | nil => rfl
  | cons call rest ih =>
      change part cache call ++ gather part (cache.react call) (rest ++ others) = _
      rw [ih, ← List.append_assoc]
      rfl

theorem area_react : (cache.react call).area = call.area?.getD cache.area := by
  cases call with
  | setArea area | requestReread => rfl
  | read dataType arrivals =>
      cases hpending : cache.rereadPending with
      | false => rw [react_read_of_not_pending hpending]; rfl
      | true =>
          obtain ⟨slot, heq⟩ := react_read_of_pending dataType arrivals hpending
          rw [heq]
          rfl
  | lookup facet answer =>
      obtain ⟨slot, heq⟩ := react_lookup_eq_with_slot cache facet answer
      rw [heq]
      rfl

theorem rereadPending_react :
    (cache.react call).rereadPending = true ↔
      call = .requestReread ∨ call.isRead = false ∧ cache.rereadPending = true := by
  cases call with
  | setArea area | requestReread => simp [react, setArea, requestReread, CacheCall.isRead]
  | read dataType arrivals =>
      have hdone : (cache.react (.read dataType arrivals)).rereadPending = false := by
        cases hpending : cache.rereadPending with
        | false => rw [react_read_of_not_pending hpending, hpending]
        | true =>
            obtain ⟨slot, heq⟩ := react_read_of_pending dataType arrivals hpending
            rw [heq]
      simp [hdone, CacheCall.isRead]
  | lookup facet answer =>
      obtain ⟨slot, heq⟩ := react_lookup_eq_with_slot cache facet answer
      simp [heq, CacheCall.isRead]

theorem area_play : (empty.play history).area = areaInForce history := by
  induction history using List.reverseRecOn with
  | nil => rfl
  | append_singleton history call ih =>
      have hstep : (empty.play (history ++ [call])).area =
          call.area?.getD (empty.play history).area := by
        rw [play_append]
        exact area_react
      rw [hstep, ih]
      unfold areaInForce
      rw [List.filterMap_append, List.getLast?_append]
      cases harea : call.area? with
      | none => simp [harea]
      | some area => simp [harea]

theorem readDue_append_singleton :
    ReadDue (history ++ [call]) ↔
      call = .requestReread ∨ call.isRead = false ∧ ReadDue history := by
  constructor
  · rintro (hunread | ⟨before, after, hsplit, hafter⟩)
    · exact .inr ⟨hunread call (by simp), .inl fun earlier hmem => hunread earlier (by simp [hmem])⟩
    · cases after using List.reverseRecOn with
      | nil =>
          obtain ⟨-, rfl⟩ := List.append_singleton_inj.mp hsplit
          exact .inl rfl
      | append_singleton after last =>
          have hsplit' : history ++ [call] = (before ++ .requestReread :: after) ++ [last] := by
            simpa using hsplit
          obtain ⟨rfl, rfl⟩ := List.append_singleton_inj.mp hsplit'
          exact .inr ⟨hafter call (by simp),
            .inr ⟨before, after, rfl, fun earlier hmem => hafter earlier (by simp [hmem])⟩⟩
  · rintro (rfl | ⟨hcall, hunread | ⟨before, after, rfl, hafter⟩⟩)
    · exact .inr ⟨history, [], rfl, by simp⟩
    · exact .inl (by simpa [or_imp, forall_and, hcall] using hunread)
    · refine .inr ⟨before, after ++ [call], by simp, ?_⟩
      simpa [or_imp, forall_and, hcall] using hafter

theorem rereadPending_play : (empty.play history).rereadPending = true ↔ ReadDue history := by
  induction history using List.reverseRecOn with
  | nil => simp [play, empty, ReadDue]
  | append_singleton history call ih =>
      rw [play_append, readDue_append_singleton, ← ih]
      exact rereadPending_react

structure Unread (cache : MetadataCache) : Prop where
  selected : cache.dataType = none
  slots : ∀ facet, cache.slot facet = none

theorem Unread.lookup (hunread : cache.Unread) (facet : Facet) :
    cache.lookup facet = .unselected := by
  simp [MetadataCache.lookup, hunread.selected, hunread.slots facet]

theorem Unread.asked (hunread : cache.Unread) (hcall : call.isRead = false) :
    cache.asked call = [] := by
  cases call with
  | setArea area | requestReread => rfl
  | read dataType arrivals => contradiction
  | lookup facet answer => simp [MetadataCache.asked, hunread.lookup facet]

theorem Unread.react (hunread : cache.Unread) (hcall : call.isRead = false) :
    (cache.react call).Unread := by
  cases call with
  | setArea area | requestReread => exact ⟨hunread.selected, hunread.slots⟩
  | read dataType arrivals => contradiction
  | lookup facet answer => simpa [MetadataCache.react, hunread.lookup facet] using hunread

theorem Unread.play (hunread : cache.Unread) (hcalls : ∀ call ∈ history, call.isRead = false) :
    (cache.play history).Unread ∧ cache.askedIn history = [] := by
  induction history generalizing cache with
  | nil => exact ⟨hunread, rfl⟩
  | cons call rest ih =>
      have hcall := hcalls call List.mem_cons_self
      obtain ⟨hplayed, hasked⟩ := ih (hunread.react hcall) fun later hmem =>
        hcalls later (List.mem_cons_of_mem call hmem)
      exact ⟨hplayed, List.append_eq_nil_iff.mpr ⟨hunread.asked hcall, hasked⟩⟩

theorem unread_empty : empty.Unread := ⟨rfl, fun _ => rfl⟩

inductive Since (cache : MetadataCache) (dataType : DataType) (arrivals : List Arrival) :
    List CacheCall → Prop
  | refresh : cache.asked (.read dataType arrivals) ≠ [] → Since cache dataType arrivals []
  | later {since : List CacheCall} {call : CacheCall} :
      Since cache dataType arrivals since →
      (call.isRead = true → (cache.play (.read dataType arrivals :: since)).asked call = []) →
      Since cache dataType arrivals (since ++ [call])

theorem Since.holds (hsince : cache.Since dataType arrivals since)
    (honce : (arrivals.map Arrival.facet).Nodup) :
    (cache.play (.read dataType arrivals :: since)).Holds dataType
      (cache.toldIn (.read dataType arrivals :: since)) := by
  induction hsince with
  | refresh hasked =>
      have hpending : cache.rereadPending = true := by
        simpa using asked_read_eq_nil_iff.not.mp hasked
      have htold : cache.toldIn [.read dataType arrivals] =
          cache.told (.read dataType arrivals) := List.append_nil _
      rw [htold]
      exact holds_refresh hpending honce
  | @later since call hsince hquiet ih =>
      rw [← List.cons_append, play_append, toldIn, gather_append, gather_single]
      exact ih.react hquiet

theorem exists_since (hread : ∃ call ∈ history, call.isRead = true) :
    ∃ before dataType arrivals since, history = before ++ .read dataType arrivals :: since ∧
      (empty.play before).Since dataType arrivals since := by
  induction history using List.reverseRecOn with
  | nil => simp at hread
  | append_singleton history call ih =>
      by_cases hquiet : call.isRead = true → (empty.play history).asked call = []
      · by_cases hearlier : ∃ earlier ∈ history, earlier.isRead = true
        · obtain ⟨before, dataType, arrivals, since, rfl, hsince⟩ := ih hearlier
          refine ⟨before, dataType, arrivals, since ++ [call], by simp, .later hsince ?_⟩
          rwa [← play_append]
        · have hcall : call.isRead = true := by
            obtain ⟨last, hmem, hlast⟩ := hread
            rcases List.mem_append.mp hmem with hmem | hmem
            · exact absurd ⟨last, hmem, hlast⟩ hearlier
            · exact List.mem_singleton.mp hmem ▸ hlast
          have hdue : ReadDue history := .inl (by simpa using hearlier)
          cases call with
          | read dataType arrivals =>
              have hdone := asked_read_eq_nil_iff.mp (hquiet rfl)
              exact absurd (rereadPending_play.mpr hdue) (by simp [hdone])
          | setArea area | requestReread | lookup facet answer => contradiction
      · cases call with
        | read dataType arrivals =>
            exact ⟨history, dataType, arrivals, [], rfl, .refresh fun hnil => hquiet fun _ => hnil⟩
        | setArea area | requestReread | lookup facet answer =>
            exact absurd nofun hquiet

end History

/-! ### What is asked -/

/-- How look-ups go since a refresh, by the answers that the source has given since. -/
structure AsksForMissing (cache : MetadataCache) (dataType : DataType) (area : Option Envelope)
    (known : List Arrival) : Prop where
  selected : cache.dataType = some dataType
  once : ∀ facet, (answered facet known).length ≤ 1
  populated : ∀ facet, cache.slot facet = (answered facet known).head?.map .ofList
  kept : ∀ facet, ∀ entries ∈ answered facet known, ∀ answer,
    cache.asked (.lookup facet answer) = [] ∧ cache.found facet answer = .ofList entries
  retried : ∀ facet, answered facet known = [] → ∀ answer,
    cache.asked (.lookup facet answer) = [⟨facet, dataType, area⟩] ∧
      cache.told (.lookup facet answer) = [⟨facet, answer⟩]
  failed : ∀ facet, answered facet known = [] → ∀ fault,
    cache.found facet (.error fault) = .empty
  obtained : ∀ facet, answered facet known = [] → ∀ entries,
    cache.found facet (.ok entries) = .ofList entries

/-- A cache asks nothing before the first read, a read asks if and only if it is due, and a look-up
asks if and only if it has had no answer with entries since the last refresh. -/
structure AsksWhenItMust (history : List CacheCall) : Prop where
  silent : (∀ call ∈ history, call.isRead = false) → empty.askedIn history = [] ∧
    ∀ facet answer, (empty.play history).asked (.lookup facet answer) = [] ∧
      (empty.play history).found facet answer = .empty
  refreshes : ReadDue history → ∀ dataType arrivals,
    (empty.play history).asked (.read dataType arrivals) =
      Facet.all.map fun facet => ⟨facet, dataType, areaInForce history⟩
  rests : ¬ReadDue history → ∀ dataType arrivals,
    (empty.play history).asked (.read dataType arrivals) = []
  begun : (∃ call ∈ history, call.isRead = true) →
    ∃ before dataType arrivals since, history = before ++ .read dataType arrivals :: since ∧
      (empty.play before).Since dataType arrivals since
  since : ∀ before dataType arrivals since, history = before ++ .read dataType arrivals :: since →
    (empty.play before).Since dataType arrivals since →
    (empty.play history).AsksForMissing dataType (areaInForce history)
      ((empty.play before).toldIn (.read dataType arrivals :: since))

theorem Holds.asksForMissing {cache : MetadataCache} {dataType : DataType} {known : List Arrival}
    (hholds : cache.Holds dataType known) : cache.AsksForMissing dataType cache.area known := by
  have hmissing (facet : Facet) (hnone : answered facet known = []) :
      cache.lookup facet = .missing ⟨dataType, cache.area, cache.generation⟩ := by
    refine hholds.lookup_of_none (Option.toList_eq_nil_iff.mp ?_)
    rw [← hholds.slots facet, hnone, List.map_nil]
  constructor
  case selected => exact hholds.selected
  case once =>
    intro facet
    have hlength := congrArg List.length (hholds.slots facet)
    rw [List.length_map] at hlength
    exact hlength ▸ Option.length_toList_le
  case populated =>
    intro facet
    have hhead := congrArg List.head? (hholds.slots facet)
    rw [List.head?_map, Option.head?_toList] at hhead
    exact hhead.symm
  case kept =>
    intro facet entries hentries answer
    have hslot : cache.slot facet = some (.ofList entries) := by
      rw [← Option.mem_toList, ← hholds.slots facet]
      exact List.mem_map_of_mem hentries
    simp [asked, found, lookup_of_slot hslot]
  case retried =>
    intro facet hnone answer
    simp [asked, told, hmissing facet hnone]
  case failed =>
    intro facet hnone fault
    simp [found, hmissing facet hnone, finishLookup]
  case obtained =>
    intro facet hnone entries
    simp [found, hmissing facet hnone, finishLookup]

/-- **A cache asks only when it must.** -/
theorem asksWhenItMust_of_timely {history : List CacheCall}
    (htimely : ∀ call ∈ history, call.Timely) : AsksWhenItMust history := by
  constructor
  case silent =>
    intro hreads
    obtain ⟨hunread, hasked⟩ := unread_empty.play hreads
    refine ⟨hasked, fun facet answer => ⟨hunread.asked rfl, ?_⟩⟩
    simp [found, hunread.lookup facet]
  case refreshes =>
    intro hdue dataType arrivals
    rw [asked_read (rereadPending_play.mpr hdue), area_play]
  case rests =>
    intro hdone dataType arrivals
    rw [asked_read_eq_nil_iff]
    simpa using rereadPending_play.not.mpr hdone
  case begun => exact exists_since
  case since =>
    rintro before dataType arrivals since rfl hsince
    have hread : (CacheCall.read dataType arrivals).Timely := htimely _ (by simp)
    have honce : (arrivals.map Arrival.facet).Nodup := hread.nodup_iff.mpr (by decide)
    rw [← area_play, play_append]
    exact (hsince.holds honce).asksForMissing

def patchyAnswers : List Arrival :=
  [⟨.levels, .error ⟨"gone"⟩⟩, ⟨.providers, .ok [⟨"west"⟩, ⟨"east"⟩]⟩,
    ⟨.parameters, .error ⟨"gone"⟩⟩, ⟨.dataSets, .ok []⟩]

def patchyArea : Envelope := ⟨.signed false 0, .signed false 0, .signed false 1, .signed false 1⟩

/-- The levels are found after the area was set, the parameters never, and a read that is not due
comes before one that is. -/
def patchyHistory : List CacheCall :=
  [.lookup .levels (.ok [⟨"top"⟩]),
    .read ⟨"grid"⟩ patchyAnswers,
    .lookup .levels (.error ⟨"gone"⟩),
    .setArea (some patchyArea),
    .lookup .levels (.ok [⟨"top"⟩]),
    .lookup .levels (.ok [⟨"ground"⟩]),
    .lookup .providers (.ok []),
    .read ⟨"points"⟩ patchyAnswers,
    .requestReread,
    .lookup .levels (.ok []),
    .lookup .parameters (.error ⟨"gone"⟩),
    .read ⟨"points"⟩ patchyAnswers]

theorem asksWhenItMust_patchyHistory :
    (∀ call ∈ patchyHistory, call.Timely) ∧ AsksWhenItMust patchyHistory ∧
      empty.askedIn patchyHistory =
        (Facet.all.map fun facet => ⟨facet, ⟨"grid"⟩, none⟩) ++
          [⟨.levels, ⟨"grid"⟩, none⟩, ⟨.levels, ⟨"grid"⟩, some patchyArea⟩,
            ⟨.parameters, ⟨"grid"⟩, some patchyArea⟩] ++
          Facet.all.map fun facet => ⟨facet, ⟨"points"⟩, some patchyArea⟩ := by
  have hanswers : (patchyAnswers.map Arrival.facet).Perm Facet.all := by decide
  have htimely : ∀ call ∈ patchyHistory, call.Timely := by
    simp [patchyHistory, CacheCall.Timely, hanswers]
  exact ⟨htimely, asksWhenItMust_of_timely htimely, by decide +kernel⟩

end MetadataCache

end SubscriptionDesk

import Mathlib.Data.List.Basic
import SubscriptionDesk.Proofs.ChangeCourse
import SubscriptionDesk.Proofs.SharedRegistry
import SubscriptionDesk.Proofs.SpelledOut

/-!
# What a mark can undo

A record that does not fit is looked up and written back with a mark, in two calls. What others
write to it between the two is lost: the registry cannot be asked to write only if nothing has
changed. So the obvious account, that a mark changes nothing but the mark, holds of one desk alone.
Of several desks it can be said that a mark brings back what was there when it looked the record up,
and undoes no write but those in between. Writes that nobody straddles in this way are kept.
-/

namespace SubscriptionDesk

/-! ### Marks are put on what was found -/

/-- Whether each mark in a run is put on what the call right before it has found. -/
inductive Orderly : List Event → Prop where
  | nil : Orderly []
  | cons {event : Event} {events : List Event} :
      event.query.isMark = false → Orderly events → Orderly (event :: events)
  | mark {name : SubscriptionName} {stored : Subscription} {user : UserId}
      {answer : Except RegistryFault Unit} {events : List Event} :
      Orderly events →
      Orderly (⟨.registry (.find name), .ok (some stored)⟩ ::
        ⟨.registry (.update user { stored with unscheduled := true }), answer⟩ :: events)

namespace Orderly

variable {first second events : List Event}

theorem of_forall (hevents : ∀ event ∈ events, event.query.isMark = false) : Orderly events := by
  induction events with
  | nil => exact .nil
  | cons event rest ih =>
      obtain ⟨hevent, hrest⟩ := List.forall_mem_cons.mp hevents
      exact .cons hevent (ih hrest)

theorem append (hfirst : Orderly first) (hsecond : Orderly second) : Orderly (first ++ second) := by
  induction hfirst with
  | nil => exact hsecond
  | cons hevent _ ih => exact .cons hevent ih
  | mark _ ih => exact .mark ih

theorem of_append (horderly : Orderly (first ++ second)) : Orderly first := by
  generalize hevents : first ++ second = events at horderly
  induction horderly generalizing first with
  | nil =>
      rw [(List.append_eq_nil_iff.mp hevents).1]
      exact .nil
  | cons hevent _ ih =>
      cases first with
      | nil => exact .nil
      | cons head rest =>
          obtain ⟨rfl, hrest⟩ := List.cons.inj hevents
          exact .cons hevent (ih hrest)
  | mark _ ih =>
      rcases first with _ | ⟨head, _ | ⟨next, rest⟩⟩
      · exact .nil
      · obtain ⟨rfl, -⟩ := List.cons.inj hevents
        exact .cons rfl .nil
      · simp only [List.cons_append, List.cons.injEq] at hevents
        obtain ⟨rfl, rfl, hrest⟩ := hevents
        exact .mark (ih hrest)

/-- What was found is at hand where the mark is put. -/
theorem lookup {before after : List Event} {user : UserId} {record : Subscription}
    {answer : Except RegistryFault Unit}
    (horderly : Orderly (before ++ ⟨.registry (.update user record), answer⟩ :: after)) :
    ∃ earlier name stored, before = earlier ++ [⟨.registry (.find name), .ok (some stored)⟩] ∧
      record = { stored with unscheduled := true } := by
  generalize hevents : before ++ ⟨.registry (.update user record), answer⟩ :: after = events
    at horderly
  induction horderly generalizing before with
  | nil => simp at hevents
  | cons hevent _ ih =>
      cases before with
      | nil =>
          obtain ⟨rfl, -⟩ := List.cons.inj hevents
          contradiction
      | cons head rest =>
          obtain ⟨rfl, hrest⟩ := List.cons.inj hevents
          obtain ⟨earlier, name, stored, rfl, hrecord⟩ := ih hrest
          exact ⟨head :: earlier, name, stored, rfl, hrecord⟩
  | @mark name stored _ _ _ _ ih =>
      rcases before with _ | ⟨head, _ | ⟨next, rest⟩⟩
      · simp at hevents
      · simp only [List.cons_append, List.nil_append, List.cons.injEq] at hevents
        obtain ⟨rfl, hmark, -⟩ := hevents
        cases hmark
        exact ⟨[], name, stored, rfl, rfl⟩
      · simp only [List.cons_append, List.cons.injEq] at hevents
        obtain ⟨rfl, rfl, hrest⟩ := hevents
        obtain ⟨earlier, found, record, rfl, hrecord⟩ := ih hrest
        exact ⟨_ :: _ :: earlier, found, record, rfl, hrecord⟩

end Orderly

namespace Negotiation

variable {user : UserId} {mutation : Mutation} {batch submitted : List Subscription}
  {events : List Event} {result : Except ServiceFault Outcome}

theorem orderly_of_untouched (huntouched : Untouched events) : Orderly events := by
  refine .of_forall fun event hevent => ?_
  have hquery := huntouched event hevent
  obtain ⟨query, answer⟩ := event
  cases query with
  | registry | carryOut => contradiction
  | _ => rfl

theorem FlagsCourse.orderly {names : List SubscriptionName} {warnings : List String}
    (hflags : FlagsCourse user names events warnings) : Orderly events := by
  induction hflags with
  | nil => exact .nil
  | cons sent hflag _ ih =>
      refine .append ?_ (.cons rfl ih)
      cases hflag with
      | unreadable | missing => exact .cons rfl .nil
      | flagged | refused => exact .mark .nil

theorem Settlement.orderly {names : NameSet .subscription}
    (hsettle : Settlement user batch events names) : Orderly events := by
  cases hsettle with
  | unneeded => exact .nil
  | unconfirmed => exact .cons rfl (.cons rfl .nil)
  | confirmed names hflags => exact .cons rfl hflags.orderly

theorem MutationCourse.orderly {answer : Except RegistryFault String}
    (hmutation : MutationCourse user batch mutation events answer) : Orderly events :=
  .of_forall (hmutation.forall_mem (fun _ _ => rfl) (fun _ => rfl) fun _ => rfl)

theorem ChangeCourse.orderly (hchange : ChangeCourse user mutation submitted events result) :
    Orderly events := by
  cases hchange with
  | unmade huntouched => exact orderly_of_untouched huntouched
  | refused reset huntouched _ hmutation =>
      exact .append (orderly_of_untouched huntouched) (.append hmutation.orderly (.cons rfl .nil))
  | made huntouched _ hmutation hsettle =>
      exact .append (orderly_of_untouched huntouched) (.append hmutation.orderly hsettle.orderly)

end Negotiation

theorem Operation.Course.orderly {config : DeskConfig} {wording : Wording} {user : UserId}
    {operation : Operation} {events : List Event} {result : Except ServiceFault Outcome}
    (hcourse : operation.Course config wording user events result) : Orderly events := by
  cases hcourse with
  | invalid => exact .nil
  | taken => exact .cons rfl .nil
  | unknown => exact .cons rfl (.cons rfl .nil)
  | negotiated _ _ hnegotiation hfollow =>
      have hlookup : Orderly operation.lookup := by
        unfold lookup
        cases operation.newName? with
        | none => exact .nil
        | some name => exact .cons rfl .nil
      exact hlookup.append (.append hnegotiation.changeCourse.orderly
        (Negotiation.orderly_of_untouched hfollow.untouched))
  | nothing => exact .nil
  | deactivated _ htold | deleted _ htold =>
      exact .cons rfl
        (Negotiation.orderly_of_untouched (Negotiation.untouched_of_notices htold))
  | notDeactivated | notDeleted => exact .cons rfl .nil

section SpelledOut

variable {events spelled : List Event}
  {carry : List Subscription → Dialogue (Except RegistryFault String)}

theorem Orderly.spelledOut (horderly : Orderly events)
    (hspelled : SpelledOut carry events spelled) : Orderly spelled := by
  induction horderly generalizing spelled with
  | nil =>
      cases hspelled
      exact .nil
  | cons hevent _ ih =>
      cases hspelled with
      | written hwrites hlater =>
          refine .append (.of_forall fun event hmem => ?_) (ih hlater)
          exact (plain_of_writeEach hwrites event hmem).1
      | carried hcalls hlater =>
          refine .append (.of_forall fun event hmem => ?_) (ih hlater)
          exact (plain_of_singly hcalls event hmem).1
      | same _ hlater => exact .cons hevent (ih hlater)
  | mark _ ih =>
      cases hspelled with
      | same _ hlater =>
          cases hlater with
          | same _ hrest => exact .mark (ih hrest)

end SpelledOut

/-! ### What a call makes of a record -/

/-- What a write that is no mark has left under a name: nothing, if it has deleted the record. -/
def Event.written? (name : SubscriptionName) : Event → Option (Option Subscription)
  | ⟨.registry (.store _ record), .ok ()⟩ =>
      if record.name = name then some (some record) else none
  | ⟨.registry (.updateAll _ batch), .ok ()⟩ =>
      (batch.reverse.find? fun record => decide (record.name = name)).map some
  | ⟨.registry (.delete _ batch), .ok ()⟩ =>
      if batch.any fun record => decide (record.name = name) then some none else none
  | _ => none

def Subscription.unmarked (subscription : Subscription) : Subscription :=
  { subscription with unscheduled := false }

section Calls

variable {registry after : Registry} {event : Event} {name : SubscriptionName}

namespace Registry

/-- What a call can make of the record of a name. -/
theorem find?_of_call (hsingle : event.query.isSingle = true)
    (hserves : registry.Serves [event] after) :
    after.find? name = (event.written? name).getD (registry.find? name) ∨
      ∃ user record, event = ⟨.registry (.update user record), .ok ()⟩ ∧ record.name = name ∧
        after.find? name = some record := by
  obtain ⟨query, answer⟩ := event
  cases query with
  | registry call =>
      cases call with
      | store user record =>
          left
          rcases serves_store hserves with ⟨-, rfl, rfl⟩ | ⟨⟨fault, rfl⟩, rfl⟩
          · rw [find?_put]
            by_cases hname : record.name = name <;> simp [Event.written?, hname]
          · rfl
      | update user record =>
          rcases serves_update hserves with ⟨rfl, rfl⟩ | ⟨-, rfl⟩
          · rw [find?_put]
            by_cases hname : record.name = name
            · rw [if_pos hname]
              exact .inr ⟨user, record, rfl, hname, rfl⟩
            · rw [if_neg hname]
              exact .inl rfl
          · exact .inl rfl
      | updateAll user batch =>
          obtain ⟨record, rfl⟩ : ∃ record, batch = [record] := by
            rcases batch with _ | ⟨record, _ | ⟨next, rest⟩⟩
            · contradiction
            · exact ⟨record, rfl⟩
            · contradiction
          have hupdate : registry.Serves [⟨.registry (.update user record), answer⟩] after := by
            obtain ⟨hanswer, hafter⟩ := hserves
            rw [serve, updateAll_singleton] at hanswer hafter
            exact ⟨hanswer, hafter⟩
          left
          rcases serves_update hupdate with ⟨rfl, rfl⟩ | ⟨⟨fault, rfl⟩, rfl⟩
          · rw [find?_put]
            by_cases hname : record.name = name <;> simp [Event.written?, hname]
          · rfl
      | delete user batch =>
          obtain ⟨hanswer, hafter⟩ := hserves
          obtain rfl : answer = .ok () := hanswer
          obtain rfl : after = registry.delete batch := hafter
          left
          rw [delete_eq_without, find?_without]
          by_cases hname : ∃ record ∈ batch, record.name = name <;>
            simp [Event.written?, hname]
      | find => exact .inl (congrArg (fun registry => find? registry name) hserves.2)
  | _ => exact .inl (congrArg (fun registry => find? registry name) hserves)

end Registry

end Calls

/-! ### Several clients -/

variable {ι : Type}

/-- What is left under a name by the last of some writes to it that are no marks, or was there
before them. -/
def lastWritten (name : SubscriptionName) (turns : List (Turn ι)) (first : Option Subscription) :
    Option Subscription :=
  turns.foldl (fun stored turn => (turn.event.written? name).getD stored) first

/-- Whether a turn comes between another client's lookup and its mark on what it found. -/
def Straddled (name : SubscriptionName) (before : List (Turn ι)) (turn : Turn ι)
    (after : List (Turn ι)) : Prop :=
  ∃ client user stored early first second late,
    before = early ++ ⟨client, ⟨.registry (.find name), .ok (some stored)⟩⟩ :: first ∧
    after =
      second ++
        ⟨client, ⟨.registry (.update user { stored with unscheduled := true }), .ok ()⟩⟩ :: late ∧
    ∀ other ∈ first ++ turn :: second, other.client ≠ client

/-- Whether all writes to a name in a row of turns come between a lookup and its mark. -/
inductive Overlooked (name : SubscriptionName) : List (Turn ι) → Prop where
  | nil : Overlooked name []
  | other {turns : List (Turn ι)} {turn : Turn ι} :
      Overlooked name turns → turn.event.written? name = none → Overlooked name (turns ++ [turn])
  | marked {turns between : List (Turn ι)} {client : ι} {user : UserId} {stored : Subscription} :
      Overlooked name turns →
      (∀ turn ∈ between, turn.client ≠ client) →
      Overlooked name
        (turns ++ ⟨client, ⟨.registry (.find name), .ok (some stored)⟩⟩ :: (between ++
          [⟨client, ⟨.registry (.update user { stored with unscheduled := true }), .ok ()⟩⟩]))

section Clients

variable {name : SubscriptionName} {turns first second : List (Turn ι)} {turn : Turn ι}

theorem lastWritten_append {stored : Option Subscription} :
    lastWritten name (first ++ second) stored =
      lastWritten name second (lastWritten name first stored) :=
  List.foldl_append

theorem lastWritten_of_forall_none {stored : Option Subscription}
    (hnone : ∀ turn ∈ turns, turn.event.written? name = none) :
    lastWritten name turns stored = stored := by
  induction turns with
  | nil => rfl
  | cons turn rest ih =>
      obtain ⟨hturn, hrest⟩ := List.forall_mem_cons.mp hnone
      unfold lastWritten
      rw [List.foldl_cons, hturn]
      exact ih hrest

theorem Straddled.prepend {before after : List (Turn ι)}
    (hstraddled : Straddled name before turn after) :
    Straddled name (first ++ before) turn after := by
  obtain ⟨client, user, stored, early, between, rest, late, rfl, rfl, hothers⟩ := hstraddled
  exact ⟨client, user, stored, first ++ early, between, rest, late, by simp, rfl, hothers⟩

theorem Straddled.append {before after : List (Turn ι)}
    (hstraddled : Straddled name before turn after) :
    Straddled name before turn (after ++ second) := by
  obtain ⟨client, user, stored, early, between, rest, late, rfl, rfl, hothers⟩ := hstraddled
  exact ⟨client, user, stored, early, between, rest, late ++ second, rfl, by simp, hothers⟩

/-- Where nobody straddles a write, none is overlooked. -/
theorem Overlooked.written?_eq_none (hoverlooked : Overlooked name turns)
    (hnone : ∀ before turn after, turns = before ++ turn :: after →
      turn.event.written? name ≠ none → ¬Straddled name before turn after) :
    ∀ turn ∈ turns, turn.event.written? name = none := by
  induction hoverlooked with
  | nil => simp
  | @other turns last _ hlast ih =>
      refine List.forall_mem_append.mpr ⟨ih ?_, List.forall_mem_singleton.mpr hlast⟩
      rintro before turn after rfl hwritten hstraddled
      exact hnone before turn (after ++ [last]) (by simp) hwritten hstraddled.append
  | @marked turns between client user stored _ hothers ih =>
      refine List.forall_mem_append.mpr ⟨ih ?_, List.forall_mem_cons.mpr ⟨rfl,
        List.forall_mem_append.mpr ⟨?_, List.forall_mem_singleton.mpr rfl⟩⟩⟩
      · rintro before turn after rfl hwritten hstraddled
        exact hnone before turn _ (List.append_assoc ..) hwritten hstraddled.append
      · intro turn hturn
        by_contra hwritten
        obtain ⟨left, right, rfl⟩ := List.append_of_mem hturn
        refine hnone (turns ++ ⟨client, ⟨.registry (.find name), .ok (some stored)⟩⟩ :: left) turn
          (right ++
            [⟨client, ⟨.registry (.update user { stored with unscheduled := true }), .ok ()⟩⟩])
          (by simp) hwritten ?_
        exact ⟨client, user, stored, turns, left, right, [], rfl, rfl, hothers⟩

/-- What a registry holds of a record after some turns, but for the mark: what was written last, or
was written last before some writes that were all overlooked. -/
structure Kept (name : SubscriptionName) (registry : Registry) (turns : List (Turn ι))
    (after : Registry) : Prop where
  latest : ∃ before rest, turns = before ++ rest ∧ Overlooked name rest ∧
    (after.find? name).map Subscription.unmarked =
      (lastWritten name before (registry.find? name)).map Subscription.unmarked
  /-- So no write is lost that nobody straddles. -/
  unstraddled :
    (∀ before turn rest, turns = before ++ turn :: rest → turn.event.written? name ≠ none →
      ¬Straddled name before turn rest) →
    (after.find? name).map Subscription.unmarked =
      (lastWritten name turns (registry.find? name)).map Subscription.unmarked

namespace Kept

variable {registry between after : Registry}

theorem of_overlooked {before rest : List (Turn ι)} (hoverlooked : Overlooked name rest)
    (hafter : (after.find? name).map Subscription.unmarked =
      (lastWritten name before (registry.find? name)).map Subscription.unmarked) :
    Kept name registry (before ++ rest) after where
  latest := ⟨before, rest, rfl, hoverlooked, hafter⟩
  unstraddled := by
    intro hnone
    have hlater : ∀ turn ∈ rest, turn.event.written? name = none := by
      refine hoverlooked.written?_eq_none ?_
      rintro early turn late rfl hwritten hstraddled
      exact hnone (before ++ early) turn late (by simp) hwritten hstraddled.prepend
    rw [lastWritten_append, lastWritten_of_forall_none hlater, hafter]

theorem of_lastWritten (hafter : after.find? name = lastWritten name turns (registry.find? name)) :
    Kept name registry turns after := by
  have hkept : Kept name registry (turns ++ []) after := .of_overlooked .nil (by rw [hafter])
  rwa [List.append_nil] at hkept

theorem call (hkept : Kept name registry turns between)
    (hafter : after.find? name = (turn.event.written? name).getD (between.find? name)) :
    Kept name registry (turns ++ [turn]) after := by
  cases hwritten : turn.event.written? name with
  | none =>
      rw [hwritten] at hafter
      obtain ⟨before, rest, rfl, hoverlooked, hagrees⟩ := hkept.latest
      rw [List.append_assoc]
      refine .of_overlooked (.other hoverlooked hwritten) ?_
      rw [← hagrees]
      exact congrArg (Option.map Subscription.unmarked) hafter
  | some left =>
      refine .of_lastWritten ?_
      rw [lastWritten_append, hafter]
      simp [lastWritten, hwritten]

theorem mark {meanwhile : List (Turn ι)} {client : ι} {user : UserId} {stored : Subscription}
    (hkept : Kept name registry turns between) (hfound : between.find? name = some stored)
    (hothers : ∀ turn ∈ meanwhile, turn.client ≠ client)
    (hafter : after.find? name = some { stored with unscheduled := true }) :
    Kept name registry
      (turns ++ ⟨client, ⟨.registry (.find name), .ok (some stored)⟩⟩ :: (meanwhile ++
        [⟨client, ⟨.registry (.update user { stored with unscheduled := true }), .ok ()⟩⟩]))
        after := by
  obtain ⟨before, rest, rfl, hoverlooked, hagrees⟩ := hkept.latest
  rw [List.append_assoc]
  refine .of_overlooked (.marked hoverlooked hothers) ?_
  rw [← hagrees, hafter, hfound]
  rfl

end Kept

end Clients

variable {α : Type} [DecidableEq ι]

/-- Each client may run any dialogue that puts its marks on what it has just found, and that writes
record by record. -/
theorem Shared.Steps.kept {name : SubscriptionName} {start finish : Shared ι α}
    {turns : List (Turn ι)} (hsteps : Shared.Steps start turns finish)
    (hsingle : ∀ turn ∈ turns, turn.event.query.isSingle = true)
    (horderly : ∀ client, Orderly (doneBy client turns)) :
    Kept name start.registry turns finish.registry := by
  -- Strong induction: a mark leads back to its lookup, and not only to the turn before it.
  induction hlength : turns.length using Nat.strongRecOn generalizing turns finish with
  | ind length ih =>
      subst hlength
      rcases List.eq_nil_or_concat' turns with rfl | ⟨init, turn, rfl⟩
      · cases hsteps
        exact .of_lastWritten rfl
      have hearlier {before after : List (Turn ι)} {between : Shared ι α}
          (hturns : init ++ [turn] = before ++ after) (hafter : after ≠ [])
          (hbefore : start.Steps before between) :
          Kept name start.registry before between.registry := by
        rw [hturns] at hsingle horderly ih
        refine ih before.length ?_ hbefore (List.forall_mem_append.mp hsingle).1 ?_ rfl
        · simpa using List.length_pos_iff.mpr hafter
        · intro client
          have hclient := horderly client
          rw [doneBy_append] at hclient
          exact hclient.of_append
      obtain ⟨between, hinit, hlast⟩ := steps_append.mp hsteps
      have hturn : between.registry.Serves [turn.event] finish.registry := hlast.serves
      rcases Registry.find?_of_call (hsingle turn (by simp)) hturn with
        hafter | ⟨user, record, hevent, hname, hafter⟩
      · exact (hearlier rfl (List.cons_ne_nil turn []) hinit).call hafter
      · obtain ⟨client, event⟩ := turn
        obtain rfl : event = ⟨.registry (.update user record), .ok ()⟩ := hevent
        have hclient := horderly client
        rw [doneBy_append, doneBy_cons_self] at hclient
        obtain ⟨earlier, other, stored, hdone, rfl⟩ := hclient.lookup
        obtain ⟨before, meanwhile, rfl, -, hothers⟩ := split_of_doneBy_eq hdone
        obtain ⟨looked, hbefore, hlooking⟩ := steps_append.mp hinit
        have hfound : looked.registry.find? other = some stored := by
          cases hlooking with
          | cons hstep _ => exact (Except.ok.inj hstep.serves.1).symm
        obtain rfl : other = name := (Registry.find?_eq_some_iff.mp hfound).2.symm.trans hname
        have hkept := hearlier (List.append_assoc ..) (by simp) hbefore
        rw [List.append_assoc, List.cons_append]
        exact hkept.mark hfound hothers hafter

/-- **What becomes of the writes to a record.** Any number of clients may have their desks do
anything, and bring along any changes of their own. -/
theorem kept_of_steps {clients : ι → Client}
    {carry : ι → List Subscription → Dialogue (Except RegistryFault String)} {registry : Registry}
    {turns : List (Turn ι)} {finish : Shared ι (Except ServiceFault Outcome)}
    (hsteps : Shared.Steps
      ⟨registry, fun client => (clients client).run.spelledOut (carry client)⟩ turns finish)
    (name : SubscriptionName) : Kept name registry turns finish.registry := by
  have hspelled (client : ι) : ∃ events rest,
      Orderly events ∧ SpelledOut (carry client) events (doneBy client turns ++ rest) := by
    have hbegins : ((clients client).run.spelledOut (carry client)).Begins (doneBy client turns)
        (finish.left client) := hsteps.begins
    obtain ⟨rest, result, hruns⟩ := hbegins.exists_runs
    obtain ⟨events, hevents, hspelled⟩ := exists_runs_of_spelledOut hruns
    exact ⟨events, rest, (Operation.course_of_runs hevents).orderly, hspelled⟩
  refine hsteps.kept ?_ ?_
  · intro turn hturn
    obtain ⟨events, rest, -, hclient⟩ := hspelled turn.client
    exact hclient.isSingle turn.event (List.mem_append_left rest (event_mem_doneBy hturn))
  · intro client
    obtain ⟨events, rest, horderly, hclient⟩ := hspelled client
    exact (horderly.spelledOut hclient).of_append

/-- One forces a change through that he makes himself, and it is not scheduled. Meanwhile the other
raises the latency of the same record. -/
def colleagues : Seat → Client
  | .left => ⟨.standard, standardWording, ⟨"early"⟩, .perform [.sample "winds"]⟩
  | .right =>
      ⟨.standard, standardWording, ⟨"late"⟩,
        .update { Subscription.sample "winds" with latency := 45 }⟩

def ownChange (batch : List Subscription) : Dialogue (Except RegistryFault String) := do
  return (← Dialogue.call (.registry (.updateAll ⟨"early"⟩ batch))).map fun _ => "changed"

def colleaguesStart : Shared Seat (Except ServiceFault Outcome) :=
  ⟨.ofList [.sample "winds"],
    fun seat => (colleagues seat).run.spelledOut fun batch => ownChange batch⟩

def colleaguesRun (turns : Nat) : List (Turn Seat) × Shared Seat (Except ServiceFault Outcome) :=
  Shared.play Rehearsal.respond
    (List.replicate turns .left ++ List.replicate 4 .right ++ List.replicate (9 - turns) .left)
    colleaguesStart
    fun
      | .left => .scripted [] (.crowded .forceApplyUnscheduled ["winds"])
      | .right => .scripted [] .empty

/-- What the schedule leaves off is looked up before the other writes, and marked after it. -/
theorem not_lastWritten_straddledUpdate :
    Shared.Steps colleaguesStart (colleaguesRun 7).1 (colleaguesRun 7).2 ∧
      ((colleaguesRun 7).2.left .left).result?.map
          (fun result => result.toOption.map fun outcome =>
            outcome.record.unscheduledAfterSchedule.members) = some (some [⟨"winds"⟩]) ∧
      ((colleaguesRun 7).2.left .right).result?.isSome ∧
      ((colleaguesRun 7).2.registry.find? ⟨"winds"⟩).map Subscription.unmarked ≠
        (lastWritten ⟨"winds"⟩ (colleaguesRun 7).1
          (colleaguesStart.registry.find? ⟨"winds"⟩)).map Subscription.unmarked ∧
      (lastWritten ⟨"winds"⟩ (colleaguesRun 7).1
          (colleaguesStart.registry.find? ⟨"winds"⟩)).map Subscription.latency = some 45 ∧
      ((colleaguesRun 7).2.registry.find? ⟨"winds"⟩).map Subscription.latency = some 0 :=
  ⟨Shared.steps_play .., by decide +kernel, by decide +kernel, by decide +kernel,
    by decide +kernel, by decide +kernel⟩

theorem kept_unstraddledUpdate :
    Shared.Steps colleaguesStart (colleaguesRun 6).1 (colleaguesRun 6).2 ∧
      Kept ⟨"winds"⟩ colleaguesStart.registry (colleaguesRun 6).1 (colleaguesRun 6).2.registry ∧
      ((colleaguesRun 6).2.registry.find? ⟨"winds"⟩).map
          (fun stored => (stored.latency, stored.unscheduled)) = some (45, true) :=
  ⟨Shared.steps_play .., kept_of_steps (Shared.steps_play ..) _, by decide +kernel⟩

end SubscriptionDesk

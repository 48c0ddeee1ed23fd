import SubscriptionDesk.Proofs.DecisionPlans
import SubscriptionDesk.Proofs.Endings
import SubscriptionDesk.Proofs.OverlapGate
import SubscriptionDesk.Proofs.Requests

/-!
# The record retells what became of the batch

A negotiation clears old marks place by place, and writes a change by name for each mark that it
clears. Names may come twice, and then a change reaches subscriptions that had no mark. It does no
harm there, so that the changes of a record, made by name to what was submitted, give the batch that
was stored and scheduled and that the outcome holds.
-/

namespace SubscriptionDesk

/-- Makes the changes of a record in order, each to every subscription that has its name. -/
def Record.replay (record : Record) (batch : List Subscription) : List Subscription :=
  record.changes.foldl (fun batch change => batch.map change.applyTo) batch

def Query.settled? : Query → Option (List Subscription)
  | .registry (.updateAll _ batch) => some batch
  | .carryOut batch => some batch
  | .schedule batch => some batch
  | _ => none

def handedOver (events : List Event) : List Subscription :=
  events.flatMap fun event => event.query.handed

section Calls

variable {first second events : List Event}

theorem handedOver_append :
    handedOver (first ++ second) = handedOver first ++ handedOver second :=
  List.flatMap_append

theorem handedOver_eq_nil (hnone : ∀ event ∈ events, event.query.handed = []) :
    handedOver events = [] :=
  List.flatMap_eq_nil_iff.mpr hnone

theorem Query.handed_of_prepares {query : Query} (hprepares : query.prepares = true) :
    query.handed = [] := by
  cases query with
  | registry | carryOut => contradiction
  | _ => rfl

theorem Query.settled?_of_prepares {query : Query} (hprepares : query.prepares = true) :
    query.settled? = none := by
  cases query with
  | registry | schedule | carryOut => contradiction
  | _ => rfl

theorem Preparatory.handedOver_eq (hevents : Preparatory events) : handedOver events = [] :=
  handedOver_eq_nil fun event hevent => Query.handed_of_prepares (hevents event hevent)

end Calls

/-! ### Marks cleared by name and by place -/

section Marks

variable {subscription : Subscription} {submitted : List Subscription}

theorem revise_clearedUnscheduled {marked : List Subscription} :
    (Plan.mk (marked.map fun other => .clearedUnscheduled other.name) []).revise subscription =
      if subscription.name ∈ marked.map Subscription.name then
        { subscription with unscheduled := false }
      else subscription := by
  rw [← List.flatMap_pure_eq_map]
  apply Plan.revise_flatMap fun name => [.clearedUnscheduled name]
  · simp [Change.name]
  · exact fun subscription => if_pos rfl
  · exact fun subscription => rfl

/-- What has no mark is not changed where its name is cleared. -/
theorem revise_clearedMarks (hmem : subscription ∈ submitted) :
    (Plan.mk (Negotiation.clearedMarks submitted) []).revise subscription =
      { subscription with unscheduled := false } := by
  unfold Negotiation.clearedMarks
  rw [revise_clearedUnscheduled]
  split
  · rfl
  · rename_i hname
    have hunmarked : subscription.unscheduled = false := by
      refine Bool.eq_false_iff.mpr fun hmarked => hname ?_
      exact List.mem_map_of_mem (List.mem_filter.mpr ⟨hmem, hmarked⟩)
    rw [← hunmarked]

theorem applyTo_clearedMarks :
    (Plan.mk (Negotiation.clearedMarks submitted) []).applyTo submitted =
      Negotiation.cleared submitted := by
  rw [Plan.applyTo_eq_map]
  exact List.map_congr_left fun _ => revise_clearedMarks

end Marks

theorem Record.replay_of_changes {record : Record} {submitted : List Subscription} {plan : Plan}
    (hchanges : record.changes = Negotiation.clearedMarks submitted ++ plan.changes) :
    record.replay submitted = plan.applyTo (Negotiation.cleared submitted) := by
  unfold replay
  rw [hchanges, List.foldl_append, ← applyTo_clearedMarks]
  rfl

/-- What a negotiation that ends well has made of a batch, and what its record tells of that. -/
structure Replayable (submitted : List Subscription) (events : List Event) (outcome : Outcome) :
    Prop where
  replayed : outcome.record.replay submitted = outcome.subscriptions
  /-- Place by place nothing differs but marks, latencies and what is on. -/
  kept : requests outcome.subscriptions = requests submitted
  /-- What is stored is the batch of the outcome, unless nothing is. -/
  stored : handedOver events =
    if outcome.record.actionExecuted then outcome.subscriptions else []
  /-- No other batch is given to the change or to the schedule. -/
  settled : ∀ event ∈ events, ∀ batch, event.query.settled? = some batch →
    batch = outcome.subscriptions

namespace Negotiation

variable {config : DeskConfig} {wording : Wording} {user : UserId} {mutation : Mutation}
  {submitted batch : List Subscription} {events : List Event} {outcome : Outcome}

/-! ### What is handed over -/

theorem StoresCourse.handedOver_eq (hstores : StoresCourse user batch events (.ok ())) :
    handedOver events = batch := by
  generalize hanswer : (Except.ok () : Except RegistryFault Unit) = answer at hstores
  induction hstores with
  | nil => rfl
  | refused => contradiction
  | @stored subscription rest later answer _ ih =>
      exact congrArg (subscription :: ·) (ih hanswer)

theorem MutationCourse.handedOver_eq {message : String}
    (hmutation : MutationCourse user batch mutation events (.ok message)) :
    handedOver events = batch := by
  rcases hmutation.of_ok with hstores | rfl | ⟨-, rfl⟩
  · exact hstores.handedOver_eq
  · exact List.append_nil batch
  · exact List.append_nil batch

theorem Settlement.handedOver_eq {names : NameSet .subscription}
    (hsettle : Settlement user batch events names) : handedOver events = [] := by
  refine handedOver_eq_nil ?_
  cases hsettle with
  | unneeded => simp
  | unconfirmed => simp [Query.handed]
  | confirmed names hflags =>
      refine List.forall_mem_cons.mpr ⟨rfl, ?_⟩
      exact hflags.forall_mem (fun _ _ => rfl) (fun _ _ => rfl) fun _ _ => rfl

theorem MutationCourse.settles {answer : Except RegistryFault String}
    (hmutation : MutationCourse user batch mutation events answer) :
    ∀ event ∈ events, ∀ settled, event.query.settled? = some settled → settled = batch :=
  hmutation.forall_mem (by simp [Query.settled?]) (by simp [Query.settled?])
    (by simp [Query.settled?])

theorem Settlement.settles {names : NameSet .subscription}
    (hsettle : Settlement user batch events names) :
    ∀ event ∈ events, ∀ settled, event.query.settled? = some settled → settled = batch := by
  cases hsettle with
  | unneeded => simp
  | unconfirmed => simp [Query.settled?]
  | confirmed names hflags =>
      refine List.forall_mem_cons.mpr ⟨by simp [Query.settled?], ?_⟩
      exact hflags.forall_mem (by simp [Query.settled?]) (by simp [Query.settled?])
        (by simp [Query.settled?])

theorem Ending.stored (hending : Ending config user mutation submitted events (.ok outcome)) :
    handedOver events = if outcome.record.actionExecuted then outcome.subscriptions else [] := by
  cases hending with
  | leaves hquiet _ _ hstanding =>
      have hunmade : outcome.record.actionExecuted = false := congrArg Prod.fst hstanding
      rw [hunmade]
      exact hquiet.handedOver_eq
  | makes hbefore _ htold hmutation hsettle _ _ hstanding =>
      have hmade : outcome.record.actionExecuted = true := congrArg Prod.fst hstanding
      have hnotices := handedOver_eq_nil (forall_of_notices (fun _ _ => rfl) htold)
      rw [if_pos hmade, handedOver_append, handedOver_append, handedOver_append,
        hbefore.handedOver_eq, hnotices, hmutation.handedOver_eq, hsettle.handedOver_eq]
      simp

theorem Ending.settled (hending : Ending config user mutation submitted events (.ok outcome)) :
    ∀ event ∈ events, ∀ batch, event.query.settled? = some batch →
      batch = outcome.subscriptions := by
  have hsilent {quiet : List Event} (hquiet : ∀ event ∈ quiet, event.query.settled? = none) :
      ∀ event ∈ quiet, ∀ batch, event.query.settled? = some batch →
        batch = outcome.subscriptions := by
    intro event hevent batch hbatch
    rw [hquiet event hevent] at hbatch
    contradiction
  cases hending with
  | leaves hquiet =>
      exact hsilent fun event hevent => Query.settled?_of_prepares (hquiet event hevent)
  | makes hbefore _ htold hmutation hsettle =>
      have hprepared := hsilent fun event hevent =>
        Query.settled?_of_prepares (hbefore event hevent)
      have hnotices := hsilent (forall_of_notices (fun _ _ => rfl) htold)
      have hafter := List.forall_mem_append.mpr ⟨hmutation.settles, hsettle.settles⟩
      exact List.forall_mem_append.mpr
        ⟨hprepared, List.forall_mem_append.mpr ⟨hnotices, hafter⟩⟩

/-- **The changes can be replayed.** When a negotiation ends well, whatever change it is for and
whatever was answered, its record tells how the submitted batch became the one that was stored. -/
theorem replayable_of_runs
    (hruns : Dialogue.Runs (run config wording user mutation submitted) events (.ok outcome)) :
    Replayable submitted events outcome := by
  have hcourse : Course config wording user mutation submitted events (.ok outcome) :=
    runs_run.mp hruns
  obtain ⟨plan, hbatch, hchanges⟩ := hcourse.ending.planned
  constructor
  case replayed => rw [hbatch, outcome.record.replay_of_changes hchanges]
  case kept => exact hcourse.requests_of_ok
  case stored => exact hcourse.ending.stored
  case settled => exact hcourse.ending.settled

/-- One name comes twice, once with a mark and once without, and the user settles for a higher
latency. -/
def twiceNamed : List Subscription :=
  [{ Subscription.sample "winds" with unscheduled := true }, .sample "waves",
    { Subscription.sample "winds" with activity := .off }]

def twiceNamedRun : List Event × Except ServiceFault Outcome × Rehearsal :=
  (run .standard standardWording ⟨"user"⟩ .given twiceNamed).converse Rehearsal.respond
    (.scripted [] (.crowded .increaseLatency ["waves"]))

def twiceNamedOutcome : Outcome := twiceNamedRun.2.1.toOption.getD .noSubscriptions

theorem replayable_twiceNamed :
    Dialogue.Runs (run .standard standardWording ⟨"user"⟩ .given twiceNamed) twiceNamedRun.1
        (.ok twiceNamedOutcome) ∧
      Replayable twiceNamed twiceNamedRun.1 twiceNamedOutcome ∧
      twiceNamedOutcome.record.changes = [.clearedUnscheduled ⟨"winds"⟩,
        .latencyChanged ⟨"winds"⟩ 0 30, .activated ⟨"winds"⟩] ∧
      twiceNamedOutcome.subscriptions.map (fun changed =>
          (changed.name.text, changed.latency, changed.isActive, changed.unscheduled)) =
        [("winds", 30, true, false), ("waves", 0, true, false), ("winds", 30, true, false)] := by
  have hresult : twiceNamedRun.2.1 = .ok twiceNamedOutcome := by rfl
  have hruns : Dialogue.Runs (run .standard standardWording ⟨"user"⟩ .given twiceNamed)
      twiceNamedRun.1 (.ok twiceNamedOutcome) := by
    rw [← hresult]
    exact Dialogue.runs_converse ..
  exact ⟨hruns, replayable_of_runs hruns, by decide +kernel, by decide +kernel⟩

end Negotiation

end SubscriptionDesk

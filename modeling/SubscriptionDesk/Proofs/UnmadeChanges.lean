import SubscriptionDesk.Proofs.Endings
import SubscriptionDesk.Proofs.RegistryEffect

/-!
# What is left of a change that is not made

A negotiation takes old marks off its batch before anybody is called on, and it works on that batch
to its end. An outcome holds the batch as it stands then. So when the change is not made, by a
duplicate, by a failure or by the user's decision, the outcome does not hold what was submitted but
what was negotiated: each mark that came with the batch is gone, and nothing else. Only a batch that
is turned down before the negotiation comes back as it was.
-/

namespace SubscriptionDesk

namespace Negotiation

variable {config : DeskConfig} {user : UserId} {mutation : Mutation}
  {submitted : List Subscription} {events : List Event} {outcome : Outcome}

theorem cleared_eq_self_iff :
    cleared submitted = submitted ↔
      ∀ subscription ∈ submitted, subscription.unscheduled = false := by
  have hunmarked (subscription : Subscription) :
      { subscription with unscheduled := false } = subscription ↔
        subscription.unscheduled = false := by
    refine ⟨fun hsame => (congrArg Subscription.unscheduled hsame).symm, fun hfalse => ?_⟩
    rw [← hfalse]
  calc cleared submitted = submitted
    _ ↔ cleared submitted = submitted.map id := by rw [List.map_id]
    _ ↔ ∀ subscription ∈ submitted, { subscription with unscheduled := false } = subscription :=
        List.map_inj_left
    _ ↔ ∀ subscription ∈ submitted, subscription.unscheduled = false :=
        forall₂_congr fun subscription _ => hunmarked subscription

/-- A negotiation that changes nothing still takes the marks off. -/
theorem Ending.of_unmade (hending : Ending config user mutation submitted events (.ok outcome))
    (hunmade : outcome.record.actionExecuted = false) :
    outcome.subscriptions = cleared submitted ∧
      outcome.record.changes = clearedMarks submitted := by
  cases hending with
  | leaves _ hbatch hchanges => exact ⟨hbatch, hchanges⟩
  | makes _ _ _ _ _ _ _ hstanding =>
      have hmade : outcome.record.actionExecuted = true := congrArg Prod.fst hstanding
      rw [hmade] at hunmade
      contradiction

end Negotiation

namespace Operation

variable {config : DeskConfig} {wording : Wording} {user : UserId} {operation : Operation}
  {events : List Event} {outcome : Outcome}

/-- Whether an operation changes stored subscriptions, or what its caller will, by a negotiation of
the batch as it was submitted. -/
def negotiatesAsSubmitted : Operation → Bool
  | .update _ => true
  | .updateAll _ => true
  | .perform _ => true
  | _ => false

structure GivesBack (operation : Operation) (outcome : Outcome) : Prop where
  /-- What is turned down comes back as it was submitted. -/
  turnedDown : operation.invalid? ≠ none →
    outcome.subscriptions = operation.batch ∧ outcome.record.changes = []
  /-- What is negotiated comes back without its marks, and the record tells of each. -/
  negotiated : operation.invalid? = none →
    (outcome.subscriptions = operation.batch.map fun subscription =>
      { subscription with unscheduled := false }) ∧
    outcome.record.changes =
      (operation.batch.filter Subscription.unscheduled).map fun subscription =>
        .clearedUnscheduled subscription.name
  asSubmitted_iff : outcome.subscriptions = operation.batch ↔
    operation.invalid? ≠ none ∨
      ∀ subscription ∈ operation.batch, subscription.unscheduled = false

theorem GivesBack.of_turnedDown {message : String}
    (hinvalid : operation.invalid? = some (.turnedDown operation.batch message)) :
    operation.GivesBack (.turnedDown operation.batch message) where
  turnedDown _ := ⟨rfl, rfl⟩
  negotiated hvalid := by
    rw [hvalid] at hinvalid
    contradiction
  asSubmitted_iff := by simp [Outcome.turnedDown, hinvalid]

theorem GivesBack.of_negotiated (hvalid : operation.invalid? = none)
    (hbatch : outcome.subscriptions = Negotiation.cleared operation.batch)
    (hchanges : outcome.record.changes = Negotiation.clearedMarks operation.batch) :
    operation.GivesBack outcome where
  turnedDown hinvalid := absurd hvalid hinvalid
  negotiated _ := ⟨hbatch, hchanges⟩
  asSubmitted_iff := by
    rw [hbatch, Negotiation.cleared_eq_self_iff]
    simp [hvalid]

theorem invalid?_eq_some (hsubmitted : operation.negotiatesAsSubmitted = true)
    (hinvalid : operation.invalid? = some outcome) :
    ∃ message, outcome = .turnedDown operation.batch message := by
  cases operation with
  | update | updateAll => exact Desk.turnedDown_of_turnDownInvalid? hinvalid
  | _ => contradiction

/-- **What is not changed loses its marks.** A change that is not made gives the batch back as it
was submitted exactly if it was turned down as not valid or carried no mark. -/
theorem givesBack_of_unmade (hsubmitted : operation.negotiatesAsSubmitted = true)
    (hruns : Dialogue.Runs (operation.run config wording user) events (.ok outcome))
    (hunmade : outcome.record.actionExecuted = false) : operation.GivesBack outcome := by
  have hcourse : operation.Course config wording user events (.ok outcome) := course_of_runs hruns
  cases hcourse with
  | invalid hinvalid =>
      obtain ⟨message, rfl⟩ := invalid?_eq_some hsubmitted hinvalid
      exact .of_turnedDown hinvalid
  | taken _ _ hname | unknown _ _ _ hname =>
      cases operation <;> contradiction
  | negotiated hvalid _ hnegotiation hfollow =>
      obtain ⟨before, rfl, hrecord, hbatch⟩ := hfollow.outcome_eq
      rw [hrecord] at hunmade
      obtain ⟨hcleared, hchanges⟩ := hnegotiation.ending.of_unmade hunmade
      exact .of_negotiated hvalid (hbatch.trans hcleared) (hrecord ▸ hchanges)
  | nothing hdirect => cases operation <;> contradiction
  | deactivated | deleted => contradiction

end Operation

def markedUpdate : Operation :=
  .updateAll [{ Subscription.sample "winds" with unscheduled := true }, .sample "waves",
    { Subscription.sample "snow" with unscheduled := true, activity := .off }]

def markedUpdateRun : List Event × Except ServiceFault Outcome × Rehearsal :=
  (markedUpdate.run .standard standardWording ⟨"user"⟩).converse Rehearsal.respond
    (.scripted [.sample "winds", .sample "waves", .sample "snow"] (.crowded .cancel []))

def markedUpdateOutcome : Outcome := markedUpdateRun.2.1.toOption.getD .noSubscriptions

theorem runs_markedUpdate :
    Dialogue.Runs (markedUpdate.run .standard standardWording ⟨"user"⟩) markedUpdateRun.1
      (.ok markedUpdateOutcome) := by
  have hresult : markedUpdateRun.2.1 = .ok markedUpdateOutcome := by rfl
  rw [← hresult]
  exact Dialogue.runs_converse ..

theorem givesBack_markedUpdate :
    markedUpdate.negotiatesAsSubmitted = true ∧
      Dialogue.Runs (markedUpdate.run .standard standardWording ⟨"user"⟩) markedUpdateRun.1
        (.ok markedUpdateOutcome) ∧
      markedUpdateOutcome.record.actionExecuted = false ∧
      markedUpdate.GivesBack markedUpdateOutcome ∧
      markedUpdateOutcome.record.changes =
        [.clearedUnscheduled ⟨"winds"⟩, .clearedUnscheduled ⟨"snow"⟩] := by
  have hunmade : markedUpdateOutcome.record.actionExecuted = false := by decide +kernel
  exact ⟨rfl, runs_markedUpdate, hunmade,
    Operation.givesBack_of_unmade rfl runs_markedUpdate hunmade, by decide +kernel⟩

/-- A batch that is not changed need not come back as it was submitted. -/
theorem subscriptions_ne_batch_markedUpdate :
    Dialogue.Runs (markedUpdate.run .standard standardWording ⟨"user"⟩) markedUpdateRun.1
        (.ok markedUpdateOutcome) ∧
      markedUpdateOutcome.record.actionExecuted = false ∧
      markedUpdateOutcome.subscriptions ≠ markedUpdate.batch :=
  ⟨runs_markedUpdate, by decide +kernel, by decide +kernel⟩

end SubscriptionDesk

import SubscriptionDesk.Proofs.ChangeCourse

/-!
# How a negotiation ends

A negotiation prepares its change, and then makes it, has it refused, or leaves it. The calls that
prepare it tell nobody anything and schedule nothing. The change is made to one batch: the submitted
one without its marks, after the plan of the user's decision if the user was asked. What is told,
what is stored, what is scheduled and what the record says of changes all follow from that plan.
-/

namespace SubscriptionDesk

/-- Whether a call comes before a change, or leads to none. -/
def Query.prepares : Query → Bool
  | .checkOverlap _ => true
  | .showMessage _ _ => true
  | .propose _ => true
  | .prompt _ _ => true
  | .openManager _ => true
  | .resetManager => true
  | _ => false

def Preparatory (events : List Event) : Prop := ∀ event ∈ events, event.query.prepares = true

theorem Preparatory.append {first second : List Event} (hfirst : Preparatory first)
    (hsecond : Preparatory second) : Preparatory (first ++ second) :=
  List.forall_mem_append.mpr ⟨hfirst, hsecond⟩

def Event.decision? : Event → Option Decision
  | ⟨.prompt _ _, decision⟩ => some decision
  | _ => none

def decisions (events : List Event) : List Decision := events.filterMap Event.decision?

theorem decisions_append {first second : List Event} :
    decisions (first ++ second) = decisions first ++ decisions second :=
  List.filterMap_append

theorem decisions_eq_nil {events : List Event} (hnone : ∀ event ∈ events, event.decision? = none) :
    decisions events = [] :=
  List.filterMap_eq_nil_iff.mpr hnone

namespace Record

variable {record : Record}

@[simp]
theorem changes_push {step : Step} : (record.push step).changes = record.changes := rfl

@[simp]
theorem changes_warn {warning : String} : (record.warn warning).changes = record.changes := rfl

@[simp]
theorem changes_note {plan : Plan} :
    (record.note plan).changes = record.changes ++ plan.changes := rfl

@[simp]
theorem changes_proposed {proposal : Proposal} :
    (record.proposed proposal).changes = record.changes := rfl

@[simp]
theorem changes_afterReset {answer : Except BandwidthFault Unit} :
    (record.afterReset answer).changes = record.changes := by
  rcases answer with fault | ⟨⟩ <;> rfl

@[simp]
theorem changes_noteDecision {offers : List Offer} {decision : Decision} :
    (Negotiation.noteDecision record offers decision).changes = record.changes := by
  unfold Negotiation.noteDecision
  dsimp only
  split <;> rfl

end Record

namespace Negotiation

/-- How a negotiation comes to its plan, by the calls before the change. -/
inductive Chosen (config : DeskConfig) (batch : List Subscription) (before : List Event) :
    Plan → Prop where
  | unasked : decisions before = [] → Chosen config batch before .empty
  | decided {proposal : Proposal} {decision : Decision} {plan : Plan} :
      batch ≠ [] →
      ⟨.propose batch, .ok proposal⟩ ∈ before →
      decisions before = [decision] →
      decision.resolve batch proposal (question config batch proposal) = .apply plan →
      Chosen config batch before plan

inductive Ending (config : DeskConfig) (user : UserId) (mutation : Mutation)
    (submitted : List Subscription) : List Event → Except ServiceFault Outcome → Prop where
  | leaves {events : List Event} {outcome : Outcome} :
      Preparatory events →
      outcome.subscriptions = cleared submitted →
      outcome.record.changes = clearedMarks submitted →
      outcome.record.standing = (false, .empty) →
      Ending config user mutation submitted events (.ok outcome)
  | makes {before told change after : List Event} {plan : Plan} {message : String}
      {outcome : Outcome} {names : NameSet .subscription} :
      Preparatory before →
      Chosen config (cleared submitted) before plan →
      told.map Event.query = (latencyNotices user plan).map Query.notify →
      MutationCourse user outcome.subscriptions mutation change (.ok message) →
      Settlement user outcome.subscriptions after names →
      outcome.subscriptions = plan.applyTo (cleared submitted) →
      outcome.record.changes = clearedMarks submitted ++ plan.changes →
      outcome.record.standing = (true, names) →
      Ending config user mutation submitted (before ++ (told ++ (change ++ after))) (.ok outcome)
  | refused {before told change : List Event} {plan : Plan} {fault : RegistryFault}
      (reset : Except BandwidthFault Unit) :
      Preparatory before →
      Chosen config (cleared submitted) before plan →
      told.map Event.query = (latencyNotices user plan).map Query.notify →
      MutationCourse user (plan.applyTo (cleared submitted)) mutation change (.error fault) →
      Ending config user mutation submitted
        (before ++ (told ++ (change ++ [⟨.resetManager, reset⟩]))) (.error (.registry fault))

variable {config : DeskConfig} {wording : Wording} {user : UserId} {mutation : Mutation}
  {submitted batch : List Subscription} {record : Record} {before told events : List Event}
  {plan : Plan}

/-! ### The overlap check prepares -/

theorem OverlapCourse.preparatory {result : Except Outcome Record}
    (hcheck : OverlapCourse config batch record events result) : Preparatory events := by
  cases hcheck <;> simp [Preparatory, Query.prepares]

theorem OverlapCourse.decisions_eq {result : Except Outcome Record}
    (hcheck : OverlapCourse config batch record events result) : decisions events = [] := by
  cases hcheck <;> rfl

theorem OverlapCourse.subscriptions_of_error {outcome : Outcome}
    (hcheck : OverlapCourse config batch record events (.error outcome)) :
    outcome.subscriptions = batch := by
  cases hcheck <;> rfl

theorem OverlapCourse.changes_of_error {outcome : Outcome}
    (hcheck : OverlapCourse config batch record events (.error outcome)) :
    outcome.record.changes = record.changes := by
  cases hcheck <;> simp [Outcome.aborted]

theorem OverlapCourse.changes_of_ok {after : Record}
    (hcheck : OverlapCourse config batch record events (.ok after)) :
    after.changes = record.changes := by
  cases hcheck <;> rfl

/-! ### The change asks the user nothing -/

theorem MutationCourse.decisions_eq {answer : Except RegistryFault String}
    (hmutation : MutationCourse user batch mutation events answer) : decisions events = [] :=
  decisions_eq_nil (hmutation.forall_mem (fun _ _ => rfl) (fun _ => rfl) fun _ => rfl)

theorem ExecutionCourse.decisions_eq {executed : Except ServiceFault (String × Record)}
    (hexecute : ExecutionCourse mutation user batch record events executed) :
    decisions events = [] := by
  cases hexecute with
  | executed hchange => exact (runs_mutation.mp hchange).decisions_eq
  | refused reset hchange =>
      rw [decisions_append, (runs_mutation.mp hchange).decisions_eq]
      rfl

theorem SettlementCourse.decisions_eq {message : String} {settled : String × Record}
    (hsettle : SettlementCourse user batch message record events settled) :
    decisions events = [] :=
  decisions_eq_nil (hsettle.forall_mem (fun _ => rfl) (fun _ => rfl) (fun _ _ => rfl)
    (fun _ _ => rfl) fun _ _ => rfl)

theorem ForceCourse.decisions_eq {result : Except ServiceFault Outcome}
    (hforce : ForceCourse user mutation batch record plan events result) :
    decisions events = [] := by
  cases hforce with
  | settled htold hexecute hsettle =>
      rw [decisions_append, decisions_append, hexecute.decisions_eq, hsettle.decisions_eq,
        decisions_eq_nil (forall_of_notices (fun _ _ => rfl) htold)]
      rfl
  | refused htold hexecute =>
      rw [decisions_append, hexecute.decisions_eq,
        decisions_eq_nil (forall_of_notices (fun _ _ => rfl) htold)]
      rfl

/-! ### The change and what comes before it -/

theorem SettlementCourse.changes_eq {message : String} {settled : String × Record}
    (hsettle : SettlementCourse user batch message record events settled) :
    settled.2.changes = record.changes := by
  cases hsettle with
  | unconfirmed => simp
  | confirmed => rfl

theorem ending_of_execution {executed : Except ServiceFault (String × Record)}
    (hbefore : Preparatory before) (hchosen : Chosen config (cleared submitted) before plan)
    (htold : told.map Event.query = (latencyNotices user plan).map Query.notify)
    (hchanges : record.changes = clearedMarks submitted ++ plan.changes)
    (hstanding : record.standing = (false, .empty))
    (hexecute : ExecutionCourse mutation user (plan.applyTo (cleared submitted)) record events
      executed) :
    Ending config user mutation submitted (before ++ (told ++ events))
      (concluded (plan.applyTo (cleared submitted)) executed) := by
  cases hexecute with
  | executed hchange =>
      rw [← List.append_nil events]
      exact .makes hbefore hchosen htold (runs_mutation.mp hchange) .unneeded rfl hchanges
        (standing_of_executed hstanding)
  | refused reset hchange =>
      exact .refused reset hbefore hchosen htold (runs_mutation.mp hchange)

theorem ForceCourse.ending {result : Except ServiceFault Outcome} (hbefore : Preparatory before)
    (hchosen : Chosen config (cleared submitted) before plan)
    (hchanges : record.changes = clearedMarks submitted)
    (hstanding : record.standing = (false, .empty))
    (hforce : ForceCourse user mutation (cleared submitted) record plan events result) :
    Ending config user mutation submitted (before ++ events) result := by
  have hnoted : (record.note plan).changes = clearedMarks submitted ++ plan.changes := by
    rw [Record.changes_note, hchanges]
  cases hforce with
  | settled htold hexecute hsettle =>
      cases hexecute with
      | executed hchange =>
          obtain ⟨hsettlement, hafter⟩ := hsettle.settlement (standing_of_executed hstanding) rfl
          exact .makes hbefore hchosen htold (runs_mutation.mp hchange) hsettlement rfl
            (hsettle.changes_eq.trans hnoted) hafter
  | refused htold hexecute =>
      exact ending_of_execution hbefore hchosen htold hnoted hstanding hexecute

theorem ProposalCourse.ending {result : Except ServiceFault Outcome} (hsome : submitted ≠ [])
    (hbefore : Preparatory before) (hunasked : decisions before = [])
    (hchanges : record.changes = clearedMarks submitted)
    (hstanding : record.standing = (false, .empty))
    (hpropose : ProposalCourse config wording user mutation (cleared submitted) record events
      result) :
    Ending config user mutation submitted (before ++ events) result := by
  cases hpropose with
  | failed fault reset =>
      refine .leaves (hbefore.append (by simp [Preparatory, Query.prepares])) rfl ?_ ?_
      · simpa [Outcome.aborted] using hchanges
      · simpa [Outcome.aborted] using hstanding
  | @fits proposal change executed hfits hexecute =>
      have hproposed : Preparatory [⟨.propose (cleared submitted), .ok proposal⟩] := by
        simp [Preparatory, Query.prepares]
      have hchosen : Chosen config (cleared submitted)
          (before ++ [⟨.propose (cleared submitted), .ok proposal⟩]) .empty := by
        refine .unasked ?_
        rw [decisions_append, hunasked]
        rfl
      have hsilent : ([] : List Event).map Event.query =
          (latencyNotices user .empty).map Query.notify := rfl
      rw [List.append_cons]
      refine ending_of_execution (hbefore.append hproposed) hchosen hsilent ?_ ?_ hexecute
      · rw [Record.changes_proposed, hchanges]
        exact (List.append_nil _).symm
      · rw [Record.standing_proposed, hstanding]
  | @abandoned proposal decision names hunfit hresolve =>
      refine .leaves (hbefore.append ?_) rfl ?_ ?_
      · cases names <;> simp [Preparatory, managerOpened, Query.prepares]
      · simpa [Outcome.aborted] using hchanges
      · simpa [Outcome.aborted] using hstanding
  | @forced proposal decision plan change result hunfit hresolve hforce =>
      have hasked : Preparatory [⟨.propose (cleared submitted), .ok proposal⟩,
          ⟨.prompt (question config (cleared submitted) proposal)
            (choices config wording (cleared submitted) proposal), decision⟩] := by
        simp [Preparatory, Query.prepares]
      rw [List.append_cons, List.append_cons, List.append_assoc before]
      refine hforce.ending (hbefore.append hasked) (.decided ?_ ?_ ?_ hresolve) ?_ ?_
      · simpa [cleared] using hsome
      · simp
      · rw [decisions_append, hunasked]
        rfl
      · rw [Record.changes_noteDecision, Record.changes_proposed, hchanges]
      · rw [Record.standing_noteDecision, Record.standing_proposed, hstanding]

/-- Every negotiation ends in one of these ways. -/
theorem Course.ending {result : Except ServiceFault Outcome}
    (hcourse : Course config wording user mutation submitted events result) :
    Ending config user mutation submitted events result := by
  cases hcourse with
  | empty hnil =>
      subst hnil
      exact .leaves (by simp [Preparatory]) rfl rfl rfl
  | stopped hsome hcheck =>
      exact .leaves hcheck.preparatory hcheck.subscriptions_of_error hcheck.changes_of_error
        hcheck.standing_of_error
  | passed hsome hcheck hpropose =>
      exact hpropose.ending hsome hcheck.preparatory hcheck.decisions_eq hcheck.changes_of_ok
        hcheck.standing_of_ok

/-- A negotiation that ends well has made a plan of its batch, if only the empty one. -/
theorem Ending.planned {outcome : Outcome}
    (hending : Ending config user mutation submitted events (.ok outcome)) :
    ∃ plan : Plan, outcome.subscriptions = plan.applyTo (cleared submitted) ∧
      outcome.record.changes = clearedMarks submitted ++ plan.changes := by
  cases hending with
  | leaves hquiet hbatch hchanges =>
      exact ⟨.empty, hbatch, hchanges.trans (List.append_nil _).symm⟩
  | makes _ _ _ _ _ hbatch hchanges => exact ⟨_, hbatch, hchanges⟩

end Negotiation

end SubscriptionDesk

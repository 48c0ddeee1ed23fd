import SubscriptionDesk.Proofs.ChangeCourse

/-!
# Requests stay as they were submitted

A negotiation changes latencies, marks and what is on, and nothing else: each batch that it hands on
is the submitted one in all other respects and in its order. So a subscription that is proposed or
scheduled carries the deletion mark with which it was submitted. Such a mark is not looked at on the
way to a proposal, and one that was set by the caller is proposed like any other.
-/

namespace SubscriptionDesk

/-- A batch in its order, without what decisions change of it. -/
def requests (batch : List Subscription) : List Subscription := batch.map Subscription.request

section Requests

variable {first second batch : List Subscription}

theorem requests_map {f : Subscription → Subscription}
    (hf : ∀ subscription, (f subscription).request = subscription.request) :
    requests (batch.map f) = requests batch := by
  unfold requests
  rw [List.map_map]
  exact List.map_congr_left fun subscription _ => hf subscription

theorem map_eq_of_requests_eq {α : Type} {field : Subscription → α}
    (hfield : ∀ subscription, field subscription.request = field subscription)
    (hrequests : requests first = requests second) : first.map field = second.map field := by
  have hmap (batch : List Subscription) : (requests batch).map field = batch.map field := by
    unfold requests
    rw [List.map_map]
    exact List.map_congr_left fun subscription _ => hfield subscription
  rw [← hmap first, hrequests, hmap second]

theorem length_eq_of_requests_eq (hrequests : requests first = requests second) :
    first.length = second.length := by
  have hlength := congrArg List.length hrequests
  simpa [requests] using hlength

end Requests

theorem Plan.requests_applyTo {plan : Plan} {batch : List Subscription} :
    requests (plan.applyTo batch) = requests batch := by
  rw [applyTo_eq_map]
  exact requests_map fun _ => request_revise

def Query.batch? : Query → Option (List Subscription)
  | .registry (.updateAll _ batch) => some batch
  | .registry (.delete _ batch) => some batch
  | .propose batch => some batch
  | .schedule batch => some batch
  | .carryOut batch => some batch
  | _ => none

def KeepsRequests (batch : List Subscription) (events : List Event) : Prop :=
  ∀ event ∈ events, ∀ handed, event.query.batch? = some handed → requests handed = requests batch

namespace KeepsRequests

variable {batch other : List Subscription} {first second events : List Event} {event : Event}

theorem of_none (hnone : ∀ event ∈ events, event.query.batch? = none) :
    KeepsRequests batch events := by
  intro event hevent handed hhanded
  rw [hnone event hevent] at hhanded
  contradiction

theorem nil : KeepsRequests batch [] := of_none (by simp)

theorem cons {handed : List Subscription} (hquery : event.query.batch? = some handed)
    (hhanded : requests handed = requests batch) (hrest : KeepsRequests batch events) :
    KeepsRequests batch (event :: events) := by
  refine List.forall_mem_cons.mpr ⟨fun offered hoffered => ?_, hrest⟩
  have heq : handed = offered := Option.some.inj (hquery.symm.trans hoffered)
  exact heq ▸ hhanded

theorem append (hfirst : KeepsRequests batch first) (hsecond : KeepsRequests batch second) :
    KeepsRequests batch (first ++ second) :=
  List.forall_mem_append.mpr ⟨hfirst, hsecond⟩

theorem trans (hbatch : requests batch = requests other) (hevents : KeepsRequests batch events) :
    KeepsRequests other events :=
  fun event hevent handed hhanded => (hevents event hevent handed hhanded).trans hbatch

end KeepsRequests

namespace Negotiation

variable {config : DeskConfig} {wording : Wording} {user : UserId} {mutation : Mutation}
  {submitted batch : List Subscription} {record : Record} {events : List Event}

theorem requests_cleared : requests (cleared submitted) = requests submitted :=
  requests_map fun _ => rfl

/-! ### Every part of a negotiation keeps them -/

theorem keepsRequests_of_notices {told : List Event} {notices : List Notice}
    (htold : told.map Event.query = notices.map Query.notify) : KeepsRequests batch told :=
  .of_none (forall_of_notices (fun _ _ => rfl) htold)

theorem OverlapCourse.keepsRequests {result : Except Outcome Record}
    (hcheck : OverlapCourse config batch record events result) :
    KeepsRequests submitted events := by
  refine .of_none ?_
  cases hcheck <;> simp [Query.batch?]

theorem FlagsCourse.keepsRequests {names : List SubscriptionName} {warnings : List String}
    (hflags : FlagsCourse user names events warnings) : KeepsRequests batch events :=
  .of_none (hflags.forall_mem (fun _ _ => rfl) (fun _ _ => rfl) fun _ _ => rfl)

theorem SettlementCourse.keepsRequests {message : String} {settled : String × Record}
    (hsettle : SettlementCourse user batch message record events settled) :
    KeepsRequests batch events := by
  cases hsettle with
  | unconfirmed fault reset => exact .cons rfl rfl (.of_none (by simp [Query.batch?]))
  | confirmed names hflags => exact .cons rfl rfl hflags.keepsRequests

theorem StoresCourse.keepsRequests {stored : List Subscription} {answer : Except RegistryFault Unit}
    (hstores : StoresCourse user stored events answer) : KeepsRequests batch events := by
  induction hstores with
  | nil => exact .nil
  | refused => exact .of_none (by simp [Query.batch?])
  | stored _ ih => exact List.forall_mem_cons.mpr ⟨by simp [Query.batch?], ih⟩

theorem MutationCourse.keepsRequests {answer : Except RegistryFault String}
    (hmutation : MutationCourse user batch mutation events answer) :
    KeepsRequests batch events := by
  cases hmutation with
  | stored _ hstores => exact hstores.keepsRequests
  | updated | given => exact .cons rfl rfl .nil

theorem ExecutionCourse.keepsRequests {executed : Except ServiceFault (String × Record)}
    (hexecute : ExecutionCourse mutation user batch record events executed) :
    KeepsRequests batch events := by
  cases hexecute with
  | executed hchange => exact (runs_mutation.mp hchange).keepsRequests
  | refused reset hchange =>
      have hreset : KeepsRequests batch [⟨.resetManager, reset⟩] :=
        .of_none (by simp [Query.batch?])
      exact (runs_mutation.mp hchange).keepsRequests.append hreset

theorem ForceCourse.keepsRequests {plan : Plan} {result : Except ServiceFault Outcome}
    (hforce : ForceCourse user mutation batch record plan events result) :
    KeepsRequests batch events := by
  have hplanned : requests (plan.applyTo batch) = requests batch := Plan.requests_applyTo
  cases hforce with
  | settled htold hexecute hsettle =>
      have hchange := hexecute.keepsRequests.trans hplanned
      have hsettled := hsettle.keepsRequests.trans hplanned
      exact (keepsRequests_of_notices htold).append (hchange.append hsettled)
  | refused htold hexecute =>
      exact (keepsRequests_of_notices htold).append (hexecute.keepsRequests.trans hplanned)

theorem ProposalCourse.keepsRequests {result : Except ServiceFault Outcome}
    (hpropose : ProposalCourse config wording user mutation batch record events result) :
    KeepsRequests batch events := by
  cases hpropose with
  | failed fault reset => exact .cons rfl rfl (.of_none (by simp [Query.batch?]))
  | fits _ hexecute => exact .cons rfl rfl hexecute.keepsRequests
  | @abandoned proposal decision names =>
      refine .cons rfl rfl (.of_none ?_)
      cases names <;> simp [Query.batch?, managerOpened]
  | forced _ _ hforce =>
      exact .cons rfl rfl (List.forall_mem_cons.mpr ⟨by simp [Query.batch?], hforce.keepsRequests⟩)

theorem Course.keepsRequests {result : Except ServiceFault Outcome}
    (hcourse : Course config wording user mutation submitted events result) :
    KeepsRequests submitted events := by
  cases hcourse with
  | empty => exact .nil
  | stopped _ hcheck => exact hcheck.keepsRequests
  | passed _ hcheck hpropose =>
      exact hcheck.keepsRequests.append (hpropose.keepsRequests.trans requests_cleared)

/-! ### So does what comes of it -/

variable {outcome : Outcome}

theorem OverlapCourse.requests_of_error
    (hcheck : OverlapCourse config batch record events (.error outcome)) :
    requests outcome.subscriptions = requests batch := by
  cases hcheck <;> rfl

theorem ForceCourse.requests_of_ok {plan : Plan}
    (hforce : ForceCourse user mutation batch record plan events (.ok outcome)) :
    requests outcome.subscriptions = requests batch := by
  obtain ⟨told, change, settlement, message, executed, settled, -, -, -, -, rfl⟩ := hforce.of_ok
  exact Plan.requests_applyTo

theorem ProposalCourse.requests_of_ok
    (hpropose : ProposalCourse config wording user mutation batch record events (.ok outcome)) :
    requests outcome.subscriptions = requests batch := by
  generalize hresult : (Except.ok outcome : Except ServiceFault Outcome) = result at hpropose
  cases hpropose with
  | failed | abandoned =>
      cases hresult
      rfl
  | fits =>
      obtain ⟨message, after, -, rfl⟩ := concluded_eq_ok_iff.mp hresult.symm
      rfl
  | forced _ _ hforce =>
      subst hresult
      exact hforce.requests_of_ok

theorem Course.requests_of_ok
    (hcourse : Course config wording user mutation submitted events (.ok outcome)) :
    requests outcome.subscriptions = requests submitted := by
  cases hcourse with
  | empty hnil =>
      rw [hnil]
      rfl
  | stopped _ hcheck => exact hcheck.requests_of_error.trans requests_cleared
  | passed _ _ hpropose => exact hpropose.requests_of_ok.trans requests_cleared

end Negotiation

namespace Operation

open Negotiation

variable {config : DeskConfig} {wording : Wording} {user : UserId} {operation : Operation}
  {events : List Event} {negotiated result : Except ServiceFault Outcome}

theorem FollowUp.keepsRequests {batch : List Subscription}
    (hfollow : operation.FollowUp user negotiated events result) : KeepsRequests batch events :=
  .of_none (hfollow.forall_mem (fun _ _ => rfl) (fun _ _ => rfl) fun _ _ => rfl)

theorem keepsRequests_lookup {batch : List Subscription} :
    KeepsRequests batch operation.lookup := by
  unfold lookup
  cases operation.newName? with
  | none => exact .nil
  | some name => exact .of_none (by simp [Query.batch?])

theorem Course.keepsRequests (hcourse : operation.Course config wording user events result) :
    KeepsRequests operation.batch events := by
  cases hcourse with
  | invalid | nothing => exact .nil
  | taken | unknown => exact .of_none (by simp [Query.batch?])
  | negotiated _ _ hnegotiation hfollow =>
      exact keepsRequests_lookup.append (hnegotiation.keepsRequests.append hfollow.keepsRequests)
  | deactivated _ htold | deleted _ htold =>
      exact .cons rfl rfl (keepsRequests_of_notices htold)
  | notDeactivated | notDeleted => exact .cons rfl rfl .nil

end Operation

/-! ### Deletion marks in proposals -/

/-- The subscriptions that a call has the bandwidth manager propose or schedule. -/
def Query.proposed : Query → List Subscription
  | .propose batch => batch
  | .schedule batch => batch
  | _ => []

theorem Query.batch?_of_proposed {query : Query} (hproposed : query.proposed ≠ []) :
    query.batch? = some query.proposed := by
  cases query with
  | propose | schedule => rfl
  | _ => contradiction

def ProposesDeleted (events : List Event) : Prop :=
  ∃ event ∈ events, ∃ subscription ∈ event.query.proposed, subscription.deleted = true

namespace Operation

variable {config : DeskConfig} {wording : Wording} {user : UserId} {operation : Operation}
  {events : List Event} {result : Except ServiceFault Outcome}

/-- What is proposed or scheduled carries the deletion marks of what was submitted, in order. -/
theorem Course.deleted_of_proposed (hcourse : operation.Course config wording user events result)
    {event : Event} (hevent : event ∈ events) (hproposed : event.query.proposed ≠ []) :
    event.query.proposed.map Subscription.deleted =
      operation.batch.map Subscription.deleted := by
  have hbatch : event.query.batch? = some event.query.proposed :=
    Query.batch?_of_proposed hproposed
  have hrequests := hcourse.keepsRequests event hevent event.query.proposed hbatch
  exact map_eq_of_requests_eq (fun _ => rfl) hrequests

theorem Course.proposed_eq_nil_of_direct (hdirect : operation.mutation? = none)
    (hcourse : operation.Course config wording user events result) :
    ∀ event ∈ events, event.query.proposed = [] := by
  have hnotices {told : List Event} {notices : List Notice}
      (htold : told.map Event.query = notices.map Query.notify) :
      ∀ event ∈ told, event.query.proposed = [] :=
    Negotiation.forall_of_notices (fun _ _ => rfl) htold
  cases hcourse with
  | invalid | nothing => simp
  | taken | unknown => simp [Query.proposed]
  | negotiated _ hmutation =>
      rw [hdirect] at hmutation
      contradiction
  | deactivated _ htold | deleted _ htold => exact List.forall_mem_cons.mpr ⟨rfl, hnotices htold⟩
  | notDeactivated | notDeleted => simp [Query.proposed]

/-- **When a deleted subscription is proposed.** An operation proposes or schedules a subscription
that is marked deleted exactly if it gets as far as a proposal and its caller submitted one so
marked; turning off and deleting never get there. -/
theorem proposesDeleted_iff_of_runs
    (hruns : Dialogue.Runs (operation.run config wording user) events result) :
    ProposesDeleted events ↔ operation.mutation? ≠ none ∧
      (∃ event ∈ events, event.query.proposed ≠ []) ∧
      ∃ subscription ∈ operation.batch, subscription.deleted = true := by
  have hcourse : operation.Course config wording user events result := course_of_runs hruns
  constructor
  · rintro ⟨event, hevent, subscription, hmem, hdeleted⟩
    have hproposed : event.query.proposed ≠ [] := List.ne_nil_of_mem hmem
    refine ⟨fun hdirect => ?_, ⟨event, hevent, hproposed⟩, ?_⟩
    · exact hproposed (hcourse.proposed_eq_nil_of_direct hdirect event hevent)
    · have hmarks := hcourse.deleted_of_proposed hevent hproposed
      have hmark : true ∈ operation.batch.map Subscription.deleted := by
        rw [← hmarks, ← hdeleted]
        exact List.mem_map_of_mem hmem
      exact List.mem_map.mp hmark
  · rintro ⟨-, ⟨event, hevent, hproposed⟩, subscription, hmem, hdeleted⟩
    have hmarks := hcourse.deleted_of_proposed hevent hproposed
    have hmark : true ∈ event.query.proposed.map Subscription.deleted := by
      rw [hmarks, ← hdeleted]
      exact List.mem_map_of_mem hmem
    exact ⟨event, hevent, List.mem_map.mp hmark⟩

end Operation

/-- One of the batch was deleted, and the whole batch is forced on the schedule. -/
def withdrawnUpdate : Operation :=
  .updateAll
    [.sample "waves", { Subscription.sample "winds" with deleted := true, activity := .off }]

def withdrawnUpdateRun : List Event × Except ServiceFault Outcome × Rehearsal :=
  (withdrawnUpdate.run .standard standardWording ⟨"user"⟩).converse Rehearsal.respond
    (.scripted [.sample "winds", .sample "waves"] (.crowded .forceApplyUnscheduled []))

theorem proposesDeleted_iff_withdrawnUpdate :
    Dialogue.Runs (withdrawnUpdate.run .standard standardWording ⟨"user"⟩) withdrawnUpdateRun.1
        withdrawnUpdateRun.2.1 ∧
      (ProposesDeleted withdrawnUpdateRun.1 ↔ withdrawnUpdate.mutation? ≠ none ∧
        (∃ event ∈ withdrawnUpdateRun.1, event.query.proposed ≠ []) ∧
        ∃ subscription ∈ withdrawnUpdate.batch, subscription.deleted = true) ∧
      withdrawnUpdateRun.1.filterMap (fun event => event.query.proposed.head?.map fun _ =>
          (event.query.label, event.query.proposed.map fun subscription =>
            (subscription.name.text, subscription.deleted))) =
        [("bandwidth.propose", [("waves", false), ("winds", true)]),
          ("bandwidth.schedule", [("waves", false), ("winds", true)])] :=
  ⟨Dialogue.runs_converse .., Operation.proposesDeleted_iff_of_runs (Dialogue.runs_converse ..),
    by decide +kernel⟩

/-- A subscription that was deleted is proposed again. -/
theorem proposesDeleted_withdrawnUpdate :
    Dialogue.Runs (withdrawnUpdate.run .standard standardWording ⟨"user"⟩) withdrawnUpdateRun.1
        withdrawnUpdateRun.2.1 ∧ ProposesDeleted withdrawnUpdateRun.1 := by
  refine ⟨Dialogue.runs_converse .., ?_⟩
  unfold ProposesDeleted
  decide +kernel

end SubscriptionDesk

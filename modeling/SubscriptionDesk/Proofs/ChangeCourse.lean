import SubscriptionDesk.Proofs.OperationCourse
import SubscriptionDesk.Proofs.RegistryLaws

/-!
# Where a negotiation makes its change

However a negotiation goes, the change is made at one place in it or nowhere. Before it nothing is
touched, and after it comes the schedule at most. The record tells whether the change was made.
-/

namespace SubscriptionDesk

/-! ### What a record says of the change -/

/-- Whether the change was made, and what was left off the schedule after it. -/
def Record.standing (record : Record) : Bool × NameSet .subscription :=
  (record.actionExecuted, record.unscheduledAfterSchedule)

namespace Record

variable {record : Record}

@[simp]
theorem standing_push_of_ne {step : Step} (hstep : step ≠ .actionExecuted) :
    (record.push step).standing = record.standing := by
  simp [standing, push, actionExecuted, hstep.symm]

@[simp]
theorem standing_push_actionExecuted :
    (record.push .actionExecuted).standing = (true, record.unscheduledAfterSchedule) := by
  simp [standing, push, actionExecuted]

@[simp]
theorem standing_warn {warning : String} : (record.warn warning).standing = record.standing := rfl

@[simp]
theorem standing_note {plan : Plan} : (record.note plan).standing = record.standing := rfl

@[simp]
theorem standing_proposed {proposal : Proposal} :
    (record.proposed proposal).standing = record.standing := by
  simp [proposed]

@[simp]
theorem standing_afterReset {answer : Except BandwidthFault Unit} :
    (record.afterReset answer).standing = record.standing := by
  rcases answer with fault | ⟨⟩ <;> simp [afterReset]

@[simp]
theorem standing_noteDecision {offers : List Offer} {decision : Decision} :
    (Negotiation.noteDecision record offers decision).standing = record.standing := by
  unfold Negotiation.noteDecision
  split <;> simp

end Record

/-! ### What a plan does to a batch -/

def Subscription.request (subscription : Subscription) : Subscription :=
  { subscription with latency := 0, activity := .off, unscheduled := false }

theorem Subscription.name_eq_of_request_eq {first second : Subscription}
    (hrequest : first.request = second.request) : first.name = second.name := by
  have hname : first.request.name = second.request.name := congrArg Subscription.name hrequest
  exact hname

theorem Change.request_applyTo (change : Change) (subscription : Subscription) :
    (change.applyTo subscription).request = subscription.request := by
  unfold applyTo
  split
  · cases change <;> rfl
  · rfl

theorem Change.name_applyTo (change : Change) (subscription : Subscription) :
    (change.applyTo subscription).name = subscription.name :=
  Subscription.name_eq_of_request_eq (change.request_applyTo subscription)

/-- Only one change turns a subscription on. -/
theorem Change.eq_activated_of_on {change : Change} {subscription : Subscription}
    (hactive : (change.applyTo subscription).activity = .on) :
    subscription.activity = .on ∨ change = .activated subscription.name := by
  unfold applyTo at hactive
  split at hactive
  · rename_i hname
    cases change with
    | activated name => exact .inr (congrArg Change.activated hname.symm)
    | deactivated => contradiction
    | _ => exact .inl hactive
  · exact .inl hactive

namespace Plan

variable {plan : Plan} {batch : List Subscription} {subscription : Subscription}

def revise (plan : Plan) (subscription : Subscription) : Subscription :=
  plan.changes.foldl (fun subscription change => change.applyTo subscription) subscription

theorem applyTo_eq_map : plan.applyTo batch = batch.map plan.revise := by
  obtain ⟨changes, warnings⟩ := plan
  induction changes generalizing batch with
  | nil => exact (List.map_id' batch).symm
  | cons change rest ih =>
      rw [applyTo_cons, ih, List.map_map]
      rfl

theorem request_revise : (plan.revise subscription).request = subscription.request := by
  obtain ⟨changes, warnings⟩ := plan
  unfold revise
  induction changes generalizing subscription with
  | nil => rfl
  | cons change rest ih => rw [List.foldl_cons, ih, change.request_applyTo]

theorem map_name_applyTo :
    (plan.applyTo batch).map Subscription.name = batch.map Subscription.name := by
  rw [applyTo_eq_map, List.map_map]
  exact List.map_congr_left fun _ _ => Subscription.name_eq_of_request_eq request_revise

theorem activated_mem_of_on (hactive : (plan.revise subscription).activity = .on) :
    subscription.activity = .on ∨ .activated subscription.name ∈ plan.changes := by
  obtain ⟨changes, warnings⟩ := plan
  unfold revise at hactive
  induction changes generalizing subscription with
  | nil => exact .inl hactive
  | cons change rest ih =>
      rcases ih hactive with hrevised | hmem
      · rcases Change.eq_activated_of_on hrevised with hon | rfl
        · exact .inl hon
        · exact .inr List.mem_cons_self
      · rw [change.name_applyTo] at hmem
        exact .inr (List.mem_cons_of_mem change hmem)

end Plan

/-- Only a higher latency turns subscriptions on, and only those called like the first. -/
theorem Decision.resolve_activated {decision : Decision} {batch : List Subscription}
    {proposal : Proposal} {configuration : PromptConfiguration} {plan : Plan}
    {name : SubscriptionName}
    (hresolve : decision.resolve batch proposal configuration = .apply plan)
    (hactivated : .activated name ∈ plan.changes) :
    decision = .increaseLatency ∧ ∃ first, batch.head? = some first ∧ name = first.name := by
  cases decision with
  | cancel | editSubscriptions => contradiction
  | increaseLatency =>
      refine ⟨rfl, ?_⟩
      unfold resolve Resolution.ofLatency at hresolve
      cases batch with
      | nil =>
          cases hresolve
          contradiction
      | cons first rest =>
          refine ⟨first, rfl, ?_⟩
          dsimp only at hresolve
          split at hresolve
          · contradiction
          · cases hresolve
            simpa [Plan.raiseLatency] using hactivated
  | forceApplyDeactivated =>
      cases hresolve
      simp [Plan.leaveDeactivated] at hactivated
  | forceApplyUnscheduled =>
      cases hresolve
      simp [Plan.leaveUnscheduled] at hactivated

namespace Negotiation

theorem map_name_cleared (submitted : List Subscription) :
    (cleared submitted).map Subscription.name = submitted.map Subscription.name := by
  simp [cleared, Function.comp_def]

/-! ### The change itself -/

inductive StoresCourse (user : UserId) :
    List Subscription → List Event → Except RegistryFault Unit → Prop where
  | nil : StoresCourse user [] [] (.ok ())
  | refused {subscription : Subscription} {rest : List Subscription} (fault : RegistryFault) :
      StoresCourse user (subscription :: rest)
        [⟨.registry (.store user subscription), .error fault⟩] (.error fault)
  | stored {subscription : Subscription} {rest : List Subscription} {later : List Event}
      {answer : Except RegistryFault Unit} :
      StoresCourse user rest later answer →
      StoresCourse user (subscription :: rest)
        (⟨.registry (.store user subscription), .ok ()⟩ :: later) answer

inductive MutationCourse (user : UserId) (batch : List Subscription) :
    Mutation → List Event → Except RegistryFault String → Prop where
  | stored {mutation : Mutation} {change : List Event} {answer : Except RegistryFault Unit} :
      mutation = .create ∨ mutation = .createQuery → StoresCourse user batch change answer →
      MutationCourse user batch mutation change
        (answer.map fun _ => mutation.storedMessage batch)
  | updated {mutation : Mutation} (answer : Except RegistryFault Unit) :
      mutation = .update ∨ mutation = .activate →
      MutationCourse user batch mutation [⟨.registry (.updateAll user batch), answer⟩]
        (answer.map fun _ => mutation.storedMessage batch)
  | given (answer : Except RegistryFault String) :
      MutationCourse user batch .given [⟨.carryOut batch, answer⟩] answer

section Change

open Dialogue

variable {user : UserId} {batch : List Subscription} {mutation : Mutation} {events : List Event}

theorem runs_storeEach {answer : Except RegistryFault Unit} :
    Runs (Mutation.storeEach user batch) events answer ↔ StoresCourse user batch events answer := by
  induction batch generalizing events with
  | nil =>
      refine runs_done_iff.trans ?_
      constructor
      · rintro ⟨rfl, rfl⟩
        exact .nil
      · intro hcourse
        cases hcourse
        exact ⟨rfl, rfl⟩
  | cons subscription rest ih =>
      refine runs_call_bind.trans ?_
      constructor
      · rintro ⟨stored, later, rfl, hlater⟩
        rcases stored with fault | ⟨⟩
        · obtain ⟨rfl, rfl⟩ := runs_done_iff.mp hlater
          exact .refused fault
        · exact .stored (ih.mp hlater)
      · intro hcourse
        cases hcourse with
        | refused fault => exact ⟨_, _, rfl, .done _⟩
        | stored hlater => exact ⟨_, _, rfl, ih.mpr hlater⟩

theorem runs_mutation {answer : Except RegistryFault String} :
    Runs (mutation.run user batch) events answer ↔
      MutationCourse user batch mutation events answer := by
  constructor
  · intro hruns
    cases mutation with
    | create | createQuery =>
        obtain ⟨stored, hstores, rfl⟩ := runs_map.mp hruns
        exact .stored (by simp) (runs_storeEach.mp hstores)
    | update | activate =>
        obtain ⟨updated, hcall, rfl⟩ := runs_map.mp hruns
        cases runs_call.mp hcall
        exact .updated updated (by simp)
    | given =>
        cases runs_call.mp hruns
        exact .given answer
  · intro hcourse
    cases hcourse with
    | stored hmutation hstores =>
        rcases hmutation with rfl | rfl <;>
          exact runs_map.mpr ⟨_, runs_storeEach.mpr hstores, rfl⟩
    | updated updated hmutation =>
        rcases hmutation with rfl | rfl <;> exact runs_map.mpr ⟨_, runs_call.mpr rfl, rfl⟩
    | given => exact runs_call.mpr rfl

theorem MutationCourse.of_ok {message : String}
    (hmutation : MutationCourse user batch mutation events (.ok message)) :
    StoresCourse user batch events (.ok ()) ∨
      events = [⟨.registry (.updateAll user batch), .ok ()⟩] ∨
      mutation = .given ∧ events = [⟨.carryOut batch, .ok message⟩] := by
  generalize hanswer : (Except.ok message : Except RegistryFault String) = answer at hmutation
  cases hmutation with
  | @stored _ _ stored _ hstores =>
      rcases stored with fault | ⟨⟩
      · contradiction
      · exact .inl hstores
  | updated updated =>
      rcases updated with fault | ⟨⟩
      · contradiction
      · exact .inr (.inl rfl)
  | given =>
      subst hanswer
      exact .inr (.inr ⟨rfl, rfl⟩)

theorem MutationCourse.of_error {fault : RegistryFault}
    (hmutation : MutationCourse user batch mutation events (.error fault)) :
    (mutation = .create ∨ mutation = .createQuery) ∧
        StoresCourse user batch events (.error fault) ∨
      (mutation = .update ∨ mutation = .activate) ∧
        events = [⟨.registry (.updateAll user batch), .error fault⟩] ∨
      mutation = .given ∧ events = [⟨.carryOut batch, .error fault⟩] := by
  generalize hanswer : (Except.error fault : Except RegistryFault String) = answer at hmutation
  cases hmutation with
  | @stored _ _ stored hnew hstores =>
      rcases stored with cause | ⟨⟩
      · obtain rfl : fault = cause := by simpa [Except.map] using hanswer
        exact .inl ⟨hnew, hstores⟩
      · contradiction
  | updated updated hchange =>
      rcases updated with cause | ⟨⟩
      · obtain rfl : fault = cause := by simpa [Except.map] using hanswer
        exact .inr (.inl ⟨hchange, rfl⟩)
      · contradiction
  | given =>
      subst hanswer
      exact .inr (.inr ⟨rfl, rfl⟩)

theorem StoresCourse.forall_mem {holds : Event → Prop} {answer : Except RegistryFault Unit}
    (hstore : ∀ stored answer, holds ⟨.registry (.store user stored), answer⟩)
    (hstores : StoresCourse user batch events answer) : ∀ event ∈ events, holds event := by
  induction hstores with
  | nil => simp
  | refused => exact List.forall_mem_singleton.mpr (hstore _ _)
  | stored _ ih => exact List.forall_mem_cons.mpr ⟨hstore _ _, ih⟩

theorem MutationCourse.forall_mem {holds : Event → Prop} {answer : Except RegistryFault String}
    (hstore : ∀ stored answer, holds ⟨.registry (.store user stored), answer⟩)
    (hupdate : ∀ answer, holds ⟨.registry (.updateAll user batch), answer⟩)
    (hcarry : ∀ answer, holds ⟨.carryOut batch, answer⟩)
    (hmutation : MutationCourse user batch mutation events answer) :
    ∀ event ∈ events, holds event := by
  cases hmutation with
  | stored _ hstores => exact hstores.forall_mem hstore
  | updated answer => exact List.forall_mem_singleton.mpr (hupdate answer)
  | given answer => exact List.forall_mem_singleton.mpr (hcarry answer)

end Change

/-! ### The negotiation around it -/

inductive Settlement (user : UserId) (batch : List Subscription) :
    List Event → NameSet .subscription → Prop where
  | unneeded : Settlement user batch [] .empty
  | unconfirmed (fault : BandwidthFault) (reset : Except BandwidthFault Unit) :
      Settlement user batch [⟨.schedule batch, .error fault⟩, ⟨.resetManager, reset⟩] .empty
  | confirmed (names : NameSet .subscription) {flags : List Event} {warnings : List String} :
      FlagsCourse user names.members flags warnings →
      Settlement user batch (⟨.schedule batch, .ok names⟩ :: flags) names

/-- Where the change is made in a negotiation, if at all. -/
inductive ChangeCourse (user : UserId) (mutation : Mutation) (submitted : List Subscription) :
    List Event → Except ServiceFault Outcome → Prop where
  | unmade {events : List Event} {outcome : Outcome} :
      Untouched events →
      outcome.record.standing = (false, .empty) →
      ChangeCourse user mutation submitted events (.ok outcome)
  | refused {before change : List Event} {batch : List Subscription} {fault : RegistryFault}
      (reset : Except BandwidthFault Unit) :
      Untouched before →
      batch.map Subscription.name = submitted.map Subscription.name →
      MutationCourse user batch mutation change (.error fault) →
      ChangeCourse user mutation submitted (before ++ (change ++ [⟨.resetManager, reset⟩]))
        (.error (.registry fault))
  | made {before change after : List Event} {message : String} {outcome : Outcome}
      {names : NameSet .subscription} :
      Untouched before →
      outcome.subscriptions.map Subscription.name = submitted.map Subscription.name →
      MutationCourse user outcome.subscriptions mutation change (.ok message) →
      Settlement user outcome.subscriptions after names →
      outcome.record.standing = (true, names) →
      ChangeCourse user mutation submitted (before ++ (change ++ after)) (.ok outcome)

section Around

variable {config : DeskConfig} {wording : Wording} {user : UserId} {mutation : Mutation}
  {submitted batch : List Subscription} {record : Record} {before events : List Event}

theorem untouched_of_notices {told : List Event} {notices : List Notice}
    (htold : told.map Event.query = notices.map Query.notify) : Untouched told :=
  forall_of_notices (fun _ _ => rfl) htold

theorem OverlapCourse.untouched {result : Except Outcome Record}
    (hcheck : OverlapCourse config batch record events result) :
    Untouched events := by
  cases hcheck <;> simp [Untouched, Query.touches]

theorem OverlapCourse.standing_of_error {outcome : Outcome}
    (hcheck : OverlapCourse config batch record events (.error outcome)) :
    outcome.record.standing = record.standing := by
  cases hcheck <;> simp [Outcome.aborted]

theorem OverlapCourse.standing_of_ok {after : Record}
    (hcheck : OverlapCourse config batch record events (.ok after)) :
    after.standing = record.standing := by
  cases hcheck <;> simp

theorem SettlementCourse.settlement {message : String} {settled : String × Record}
    {names : NameSet .subscription}
    (hsettle : SettlementCourse user batch message record events settled)
    (hrecord : record.standing = (true, .empty)) (hnames : settled.2.standing.2 = names) :
    Settlement user batch events names ∧ settled.2.standing = (true, names) := by
  subst hnames
  cases hsettle with
  | unconfirmed fault reset =>
      have hafter : ((record.warn ("schedule not confirmed: " ++ fault.message)).afterReset
          reset).standing = (true, .empty) := by simp [hrecord]
      rw [hafter]
      exact ⟨.unconfirmed fault reset, rfl⟩
  | @confirmed names flags warnings hflags =>
      have hexecuted : record.actionExecuted = true := congrArg Prod.fst hrecord
      refine ⟨.confirmed names hflags, ?_⟩
      simpa [Record.standing, Record.warnAll, Record.push, Record.actionExecuted] using hexecuted

theorem standing_of_executed (hrecord : record.standing = (false, .empty)) :
    (record.push .actionExecuted).standing = (true, .empty) := by
  have hnames : record.unscheduledAfterSchedule = .empty := congrArg Prod.snd hrecord
  rw [Record.standing_push_actionExecuted, hnames]

theorem changeCourse_of_execution {executed : Except ServiceFault (String × Record)}
    (hbefore : Untouched before)
    (hnames : batch.map Subscription.name = submitted.map Subscription.name)
    (hrecord : record.standing = (false, .empty))
    (hexecute : ExecutionCourse mutation user batch record events executed) :
    ChangeCourse user mutation submitted (before ++ events) (concluded batch executed) := by
  cases hexecute with
  | executed hchange =>
      rw [← List.append_nil events]
      exact .made hbefore hnames (runs_mutation.mp hchange) .unneeded
        (standing_of_executed hrecord)
  | refused reset hchange => exact .refused reset hbefore hnames (runs_mutation.mp hchange)

theorem ForceCourse.changeCourse {plan : Plan} {result : Except ServiceFault Outcome}
    (hbefore : Untouched before)
    (hnames : batch.map Subscription.name = submitted.map Subscription.name)
    (hrecord : record.standing = (false, .empty))
    (hforce : ForceCourse user mutation batch record plan events result) :
    ChangeCourse user mutation submitted (before ++ events) result := by
  have hforced : (plan.applyTo batch).map Subscription.name = submitted.map Subscription.name :=
    Plan.map_name_applyTo.trans hnames
  have hnoted : (record.note plan).standing = (false, .empty) := hrecord
  cases hforce with
  | settled htold hexecute hsettle =>
      rw [← List.append_assoc]
      cases hexecute with
      | executed hchange =>
          obtain ⟨hsettlement, hafter⟩ := hsettle.settlement (standing_of_executed hnoted) rfl
          exact .made (hbefore.append (untouched_of_notices htold)) hforced
            (runs_mutation.mp hchange) hsettlement hafter
  | refused htold hexecute =>
      rw [← List.append_assoc]
      exact changeCourse_of_execution (hbefore.append (untouched_of_notices htold)) hforced hnoted
        hexecute

theorem ProposalCourse.changeCourse {result : Except ServiceFault Outcome}
    (hbefore : Untouched before)
    (hnames : batch.map Subscription.name = submitted.map Subscription.name)
    (hrecord : record.standing = (false, .empty))
    (hpropose : ProposalCourse config wording user mutation batch record events result) :
    ChangeCourse user mutation submitted (before ++ events) result := by
  have hproposed (proposal : Proposal) : (record.proposed proposal).standing = (false, .empty) := by
    rw [Record.standing_proposed, hrecord]
  cases hpropose with
  | failed fault reset =>
      refine .unmade (hbefore.append (by simp [Untouched, Query.touches])) ?_
      simpa [Outcome.aborted] using hrecord
  | @fits proposal change executed hfits hexecute =>
      have hasked : Untouched [⟨.propose batch, .ok proposal⟩] := by
        simp [Untouched, Query.touches]
      rw [List.append_cons]
      exact changeCourse_of_execution (hbefore.append hasked) hnames (hproposed proposal) hexecute
  | @abandoned proposal decision names hunfit hresolve =>
      refine .unmade (hbefore.append ?_) ?_
      · cases names <;> simp [Untouched, managerOpened, Query.touches]
      · simpa [Outcome.aborted] using hrecord
  | @forced proposal decision plan change result hunfit hresolve hforce =>
      have hasked : Untouched [⟨.propose batch, .ok proposal⟩,
          ⟨.prompt (question config batch proposal) (choices config wording batch proposal),
            decision⟩] := by
        simp [Untouched, Query.touches]
      rw [List.append_cons, List.append_cons, List.append_assoc before]
      refine hforce.changeCourse (hbefore.append hasked) hnames ?_
      rw [Record.standing_noteDecision, hproposed]

/-- In a negotiation the change is made at one place or nowhere. -/
theorem Course.changeCourse {result : Except ServiceFault Outcome}
    (hcourse : Course config wording user mutation submitted events result) :
    ChangeCourse user mutation submitted events result := by
  have hopening : (openingRecord submitted).standing = (false, .empty) := rfl
  cases hcourse with
  | empty => exact .unmade (by simp [Untouched]) rfl
  | stopped hsome hcheck =>
      exact .unmade hcheck.untouched (hcheck.standing_of_error.trans hopening)
  | passed hsome hcheck hpropose =>
      exact hpropose.changeCourse hcheck.untouched (map_name_cleared submitted)
        (hcheck.standing_of_ok.trans hopening)

end Around

end Negotiation

namespace Operation

variable {user : UserId} {operation : Operation} {events : List Event}
  {negotiated result : Except ServiceFault Outcome}

theorem FollowUp.untouched (hfollow : operation.FollowUp user negotiated events result) :
    Untouched events :=
  hfollow.forall_mem (fun _ _ => rfl) (fun _ _ => rfl) fun _ _ => rfl

end Operation

end SubscriptionDesk

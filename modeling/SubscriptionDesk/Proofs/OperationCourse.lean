import SubscriptionDesk.Desk
import SubscriptionDesk.Proofs.NegotiationCourse

/-!
# How an operation can go

Most operations are a negotiation with something before it (fields are checked, a new name is looked
up) and something after it (notices, and what the bandwidth manager knows of a new subscription).
Turning off and deleting call the registry at once. Here this is said once for all operations.
-/

namespace SubscriptionDesk

def Query.isReport : Query → Bool
  | .statusSummary _ => true
  | .estimate _ => true
  | _ => false

/-- The notice that something was done to a subscription. -/
def Subscription.news (subscription : Subscription) (user : UserId) (kind : NoticeKind)
    (verb : String) : Notice where
  kind := kind
  user := user
  subscription := subscription.name
  message :=
    "Subscription " ++ subscription.name.text ++ " " ++ verb ++ " by " ++ user.text ++ "."

theorem Subscription.standard_eq_news (subscription : Subscription) {user : UserId}
    {kind : NoticeKind} (hkind : kind ≠ .unscheduled) :
    Notice.standard kind user subscription.name = subscription.news user kind kind.label := by
  rw [Subscription.news, ← Notice.message_standard_of_ne hkind]
  rfl

namespace Operation

def batch : Operation → List Subscription
  | .store subscription => [subscription]
  | .storeAdhoc subscription => [{ subscription with recurrence := .adhoc }]
  | .update subscription => [subscription]
  | .updateAll batch => batch
  | .activate batch => batch.map fun subscription => { subscription with activity := .on }
  | .deactivate batch => batch.map fun subscription => { subscription with activity := .off }
  | .delete batch => batch.map fun subscription =>
      { subscription with deleted := true, activity := .off }
  | .perform batch => batch

def mutation? : Operation → Option Mutation
  | .store _ => some .create
  | .storeAdhoc _ => some .createQuery
  | .update _ => some .update
  | .updateAll _ => some .update
  | .activate _ => some .activate
  | .deactivate _ => none
  | .delete _ => none
  | .perform _ => some .given

/-- The name that has to be free, if the operation adds a subscription. -/
def newName? : Operation → Option SubscriptionName
  | .store subscription => some subscription.name
  | .storeAdhoc subscription => some subscription.name
  | _ => none

def lookup (operation : Operation) : List Event :=
  operation.newName?.toList.map fun name => ⟨.registry (.find name), .ok none⟩

/-- What is told of a batch at the end. The caller of a bare negotiation tells of it himself. -/
def notices (user : UserId) : Operation → List Subscription → List Notice
  | .store _, batch => batch.map (·.news user .created "created")
  | .storeAdhoc _, batch => batch.map (·.news user .created "created")
  | .update _, batch => batch.map (·.news user .updated "updated")
  | .updateAll _, batch => batch.map (·.news user .updated "updated")
  | .activate _, batch => batch.map fun changed =>
      if changed.activity = .on then changed.news user .activated "activated"
      else changed.news user .deactivated "deactivated"
  | .deactivate _, batch => batch.map (·.news user .deactivated "deactivated")
  | .delete _, batch => batch.map (·.news user .deleted "deleted")
  | .perform _, _ => []

/-- The outcome for the first subscription that is not valid, if the operation looks for one. -/
def invalid? : Operation → Option Outcome
  | .store subscription => Desk.turnDownInvalid? [subscription]
  | .storeAdhoc subscription => Desk.turnDownInvalid? [{ subscription with recurrence := .adhoc }]
  | .update subscription => Desk.turnDownInvalid? [subscription]
  | .updateAll batch => Desk.turnDownInvalid? batch
  | .activate batch => Desk.turnDownInvalid? batch
  | .deactivate _ => none
  | .delete _ => none
  | .perform _ => none

inductive FollowUp (user : UserId) (operation : Operation) :
    Except ServiceFault Outcome → List Event → Except ServiceFault Outcome → Prop where
  | refused {fault : ServiceFault} : FollowUp user operation (.error fault) [] (.error fault)
  | unchanged {outcome : Outcome} :
      outcome.record.actionExecuted = false →
      FollowUp user operation (.ok outcome) [] (.ok outcome)
  | changed {outcome : Outcome} {told reports : List Event} {reply : Reply} :
      outcome.record.actionExecuted = true →
      told.map Event.query = (operation.notices user outcome.subscriptions).map Query.notify →
      (∀ event ∈ reports, event.query.isReport) →
      reply.message.isSome = outcome.reply.message.isSome →
      reply.allowFurtherEditing = outcome.reply.allowFurtherEditing →
      FollowUp user operation (.ok outcome) (told ++ reports)
        (.ok { outcome with reply := reply })

section FollowUp

variable {user : UserId} {operation : Operation} {events : List Event}
  {negotiated : Except ServiceFault Outcome}

/-- What holds of every notice and every report holds of what comes after a negotiation. -/
theorem FollowUp.forall_mem {holds : Event → Prop} {result : Except ServiceFault Outcome}
    (hnotice : ∀ notice answer, holds ⟨.notify notice, answer⟩)
    (hsummary : ∀ subscription answer, holds ⟨.statusSummary subscription, answer⟩)
    (hestimate : ∀ query answer, holds ⟨.estimate query, answer⟩)
    (hfollow : operation.FollowUp user negotiated events result) :
    ∀ event ∈ events, holds event := by
  cases hfollow with
  | refused | unchanged => simp
  | changed hexecuted htold hreports =>
      refine List.forall_mem_append.mpr ⟨Negotiation.forall_of_notices hnotice htold, ?_⟩
      intro event hevent
      have hreport := hreports event hevent
      obtain ⟨query, answer⟩ := event
      cases query with
      | statusSummary subscription => exact hsummary subscription answer
      | estimate query => exact hestimate query answer
      | _ => contradiction

theorem FollowUp.outcome_eq {outcome : Outcome}
    (hfollow : operation.FollowUp user negotiated events (.ok outcome)) :
    ∃ before, negotiated = .ok before ∧ outcome.record = before.record ∧
      outcome.subscriptions = before.subscriptions := by
  cases hfollow with
  | unchanged => exact ⟨_, rfl, rfl, rfl⟩
  | changed => exact ⟨_, rfl, rfl, rfl⟩

theorem FollowUp.error_eq {fault : ServiceFault}
    (hfollow : operation.FollowUp user negotiated events (.error fault)) :
    negotiated = .error fault := by
  cases hfollow with
  | refused => rfl

end FollowUp

inductive Course (config : DeskConfig) (wording : Wording) (user : UserId) :
    Operation → List Event → Except ServiceFault Outcome → Prop where
  | invalid {operation : Operation} {outcome : Outcome} :
      operation.invalid? = some outcome →
      Course config wording user operation [] (.ok outcome)
  | taken {operation : Operation} {name : SubscriptionName} (found : Subscription) :
      operation.invalid? = none → operation.newName? = some name →
      Course config wording user operation [⟨.registry (.find name), .ok (some found)⟩]
        (.ok (.turnedDown operation.batch
          ("A subscription named " ++ name.text ++ " already exists.")))
  | unknown {operation : Operation} {name : SubscriptionName} (fault : RegistryFault)
      (reset : Except BandwidthFault Unit) :
      operation.invalid? = none → operation.newName? = some name →
      Course config wording user operation
        [⟨.registry (.find name), .error fault⟩, ⟨.resetManager, reset⟩]
        (.ok (.aborted .failure operation.batch (Record.empty.afterReset reset)))
  | negotiated {operation : Operation} {mutation : Mutation} {negotiation tail : List Event}
      {negotiated result : Except ServiceFault Outcome} :
      operation.invalid? = none → operation.mutation? = some mutation →
      Negotiation.Course config wording user mutation operation.batch negotiation negotiated →
      operation.FollowUp user negotiated tail result →
      Course config wording user operation (operation.lookup ++ (negotiation ++ tail)) result
  | nothing {operation : Operation} :
      operation.mutation? = none → operation.batch = [] →
      Course config wording user operation [] (.ok .noSubscriptions)
  | deactivated {batch : List Subscription} {told : List Event} :
      batch ≠ [] →
      told.map Event.query =
        ((Operation.deactivate batch).notices user (batch.map Subscription.deactivate)).map
          Query.notify →
      Course config wording user (.deactivate batch)
        (⟨.registry (.updateAll user (batch.map Subscription.deactivate)), .ok ()⟩ :: told)
        (.ok {
          reply := .success (completionMessage (batch.map Subscription.deactivate) "deactivated")
          subscriptions := batch.map Subscription.deactivate
          record := { Record.empty with
            steps := [.actionExecuted]
            changes :=
              (batch.map Subscription.deactivate).map fun changed => .deactivated changed.name } })
  | notDeactivated {batch : List Subscription} (fault : RegistryFault) :
      batch ≠ [] →
      Course config wording user (.deactivate batch)
        [⟨.registry (.updateAll user (batch.map Subscription.deactivate)), .error fault⟩]
        (.error (.registry fault))
  | deleted {batch : List Subscription} {told : List Event} :
      batch ≠ [] →
      told.map Event.query =
        ((Operation.delete batch).notices user (batch.map Subscription.markDeleted)).map
          Query.notify →
      Course config wording user (.delete batch)
        (⟨.registry (.delete user (batch.map Subscription.markDeleted)), .ok ()⟩ :: told)
        (.ok {
          reply := .success (completionMessage (batch.map Subscription.markDeleted) "deleted")
          subscriptions := batch.map Subscription.markDeleted
          record := { Record.empty with steps := [.actionExecuted] } })
  | notDeleted {batch : List Subscription} (fault : RegistryFault) :
      batch ≠ [] →
      Course config wording user (.delete batch)
        [⟨.registry (.delete user (batch.map Subscription.markDeleted)), .error fault⟩]
        (.error (.registry fault))

end Operation

namespace Desk

open Dialogue Negotiation

variable {config : DeskConfig} {wording : Wording} {user : UserId} {batch : List Subscription}
  {events : List Event}

theorem runs_turnDownNew {subscription : Subscription} {turned : Option Outcome}
    (hruns : Runs (turnDownNew? subscription) events turned) :
    (∃ outcome, turnDownInvalid? [subscription] = some outcome ∧ events = [] ∧
      turned = some outcome) ∨
    (turnDownInvalid? [subscription] = none ∧
      ((events = [⟨.registry (.find subscription.name), .ok none⟩] ∧ turned = none) ∨
      (∃ found, events = [⟨.registry (.find subscription.name), .ok (some found)⟩] ∧
        turned = some (.turnedDown [subscription]
          ("A subscription named " ++ subscription.name.text ++ " already exists."))) ∨
      (∃ fault reset,
        events = [⟨.registry (.find subscription.name), .error fault⟩, ⟨.resetManager, reset⟩] ∧
        turned = some (.aborted .failure [subscription] (Record.empty.afterReset reset))))) := by
  unfold turnDownNew? at hruns
  cases hinvalid : turnDownInvalid? [subscription] with
  | some outcome =>
      rw [hinvalid] at hruns
      obtain ⟨rfl, rfl⟩ := runs_done_iff.mp hruns
      exact .inl ⟨outcome, rfl, rfl, rfl⟩
  | none =>
      rw [hinvalid] at hruns
      refine .inr ⟨rfl, ?_⟩
      obtain ⟨answer, rest, rfl, hrest⟩ := runs_call_bind.mp hruns
      rcases answer with fault | _ | found
      · obtain ⟨outcome, hbreak, rfl⟩ := runs_map.mp hrest
        obtain ⟨reset, rfl, rfl⟩ := runs_breakOff.mp hbreak
        exact .inr (.inr ⟨fault, reset, rfl, rfl⟩)
      · obtain ⟨rfl, rfl⟩ := runs_done_iff.mp hrest
        exact .inl ⟨rfl, rfl⟩
      · obtain ⟨rfl, rfl⟩ := runs_done_iff.mp hrest
        exact .inr (.inl ⟨found, rfl, rfl⟩)

/-- What is told of a stored subscription leaves the batch and the record as they are. -/
theorem runs_summarised {outcome after : Outcome} {subscription : Subscription}
    (hruns : Runs (summarised outcome subscription) events after) :
    (∀ event ∈ events, event.query.isReport) ∧
      ∃ reply, after = { outcome with reply := reply } ∧
        reply.message.isSome = outcome.reply.message.isSome ∧
        reply.allowFurtherEditing = outcome.reply.allowFurtherEditing := by
  obtain ⟨answer, rest, rfl, hrest⟩ := runs_call_bind.mp hruns
  rcases answer with fault | summary <;> obtain ⟨rfl, rfl⟩ := runs_done_iff.mp hrest
  · exact ⟨by simp [Query.isReport], _, rfl, rfl, rfl⟩
  · exact ⟨by simp [Query.isReport], _, rfl, rfl, rfl⟩

theorem runs_estimated {outcome after : Outcome} {query : Subscription}
    (hruns : Runs (estimated outcome query) events after) :
    (∀ event ∈ events, event.query.isReport) ∧
      ∃ reply, after = { outcome with reply := reply } ∧
        reply.message.isSome = outcome.reply.message.isSome ∧
        reply.allowFurtherEditing = outcome.reply.allowFurtherEditing := by
  obtain ⟨summary, rest, rfl, hrest⟩ := runs_call_bind.mp hruns
  obtain ⟨estimate, rest, rfl, hdone⟩ := runs_call_bind.mp hrest
  rcases estimate with fault | _ | millis <;> obtain ⟨rfl, rfl⟩ := runs_done_iff.mp hdone
  · exact ⟨by simp [Query.isReport], _, rfl, rfl, rfl⟩
  · exact ⟨by simp [Query.isReport], _, rfl, rfl, rfl⟩
  · exact ⟨by simp [Query.isReport], _, rfl, by simp [withEstimate, Reply.withStatusSummary], rfl⟩

/-- After a negotiation, notices and reports follow only if the change was made. -/
theorem followUp_of_runs {operation : Operation} {negotiated result : Except ServiceFault Outcome}
    {next : Outcome → Dialogue Outcome}
    (hnext : ∀ outcome events after, Runs (next outcome) events after →
      ∃ told reports reply, events = told ++ reports ∧ after = { outcome with reply := reply } ∧
        told.map Event.query = (operation.notices user outcome.subscriptions).map Query.notify ∧
        (∀ event ∈ reports, event.query.isReport) ∧
        reply.message.isSome = outcome.reply.message.isSome ∧
        reply.allowFurtherEditing = outcome.reply.allowFurtherEditing)
    (hruns : Runs (afterChange negotiated next) events result) :
    operation.FollowUp user negotiated events result := by
  unfold afterChange at hruns
  rcases negotiated with fault | outcome
  · obtain ⟨rfl, rfl⟩ := runs_done_iff.mp hruns
    exact .refused
  cases hexecuted : outcome.record.actionExecuted with
  | false =>
      simp only [hexecuted, Bool.false_eq_true, ↓reduceIte] at hruns
      obtain ⟨rfl, rfl⟩ := runs_done_iff.mp hruns
      exact .unchanged hexecuted
  | true =>
      simp only [hexecuted, ↓reduceIte] at hruns
      obtain ⟨after, hafter, rfl⟩ := runs_map.mp hruns
      obtain ⟨told, reports, reply, rfl, rfl, htold, hreports, hmessage, hediting⟩ :=
        hnext outcome events after hafter
      exact .changed hexecuted htold hreports hmessage hediting

theorem course_of_storeNew {operation : Operation} {mutation : Mutation}
    {subscription : Subscription} {report : Outcome → Subscription → Dialogue Outcome}
    {result : Except ServiceFault Outcome}
    (hbatch : operation.batch = [subscription])
    (hinvalid : operation.invalid? = turnDownInvalid? [subscription])
    (hname : operation.newName? = some subscription.name)
    (hmutation : operation.mutation? = some mutation)
    (hnotices : ∀ batch, operation.notices user batch =
      batch.map fun stored => .standard .created user stored.name)
    (hreport : ∀ outcome stored events after, Runs (report outcome stored) events after →
      (∀ event ∈ events, event.query.isReport) ∧
        ∃ reply, after = { outcome with reply := reply } ∧
          reply.message.isSome = outcome.reply.message.isSome ∧
          reply.allowFurtherEditing = outcome.reply.allowFurtherEditing)
    (hruns : Runs (storeNew config wording user mutation subscription report) events result) :
    operation.Course config wording user events result := by
  obtain ⟨checked, turned, rest, hturned, hrest, rfl⟩ := runs_bind.mp hruns
  rcases runs_turnDownNew hturned with ⟨outcome, hoff, rfl, rfl⟩ | ⟨hvalid, hlookup⟩
  · obtain ⟨rfl, rfl⟩ := runs_done_iff.mp hrest
    exact .invalid (hinvalid.trans hoff)
  rw [← hinvalid] at hvalid
  rcases hlookup with ⟨rfl, rfl⟩ | ⟨found, rfl, rfl⟩ | ⟨fault, reset, rfl, rfl⟩
  · obtain ⟨negotiation, negotiated, tail, hnegotiation, htail, rfl⟩ := runs_bind.mp hrest
    have hlookup : operation.lookup = [⟨.registry (.find subscription.name), .ok none⟩] := by
      simp [Operation.lookup, hname]
    rw [← hlookup]
    refine .negotiated hvalid hmutation (hbatch ▸ runs_run.mp hnegotiation)
      (followUp_of_runs ?_ htail)
    intro outcome events after hafter
    obtain ⟨told, _, reports, htold, hreports, rfl⟩ := runs_bind.mp hafter
    have hnoticed : told.map Event.query =
        (operation.notices user outcome.subscriptions).map Query.notify := by
      rw [hnotices, List.map_map]
      exact runs_notifyEach.mp htold
    split at hreports
    · obtain ⟨honly, reply, rfl, hmessage, hediting⟩ := hreport _ _ _ _ hreports
      exact ⟨told, reports, reply, rfl, rfl, hnoticed, honly, hmessage, hediting⟩
    · obtain ⟨rfl, rfl⟩ := runs_done_iff.mp hreports
      exact ⟨told, [], _, rfl, rfl, hnoticed, by simp, rfl, rfl⟩
  · obtain ⟨rfl, rfl⟩ := runs_done_iff.mp hrest
    rw [List.append_nil, ← hbatch]
    exact .taken found hvalid hname
  · obtain ⟨rfl, rfl⟩ := runs_done_iff.mp hrest
    rw [List.append_nil, ← hbatch]
    exact .unknown fault reset hvalid hname

theorem course_of_changeAll {operation : Operation} {mutation : Mutation}
    {kind : Subscription → NoticeKind} {result : Except ServiceFault Outcome}
    (hbatch : operation.batch = batch) (hvalid : operation.invalid? = none)
    (hname : operation.newName? = none) (hmutation : operation.mutation? = some mutation)
    (hnotices : ∀ batch, operation.notices user batch =
      batch.map fun changed => .standard (kind changed) user changed.name)
    (hruns : Runs (changeAll config wording user mutation batch kind) events result) :
    operation.Course config wording user events result := by
  obtain ⟨negotiation, negotiated, tail, hnegotiation, htail, rfl⟩ := runs_bind.mp hruns
  have hlookup : operation.lookup = [] := by simp [Operation.lookup, hname]
  rw [← List.nil_append (negotiation ++ tail), ← hlookup]
  refine .negotiated hvalid hmutation (hbatch ▸ runs_run.mp hnegotiation)
    (followUp_of_runs ?_ htail)
  intro outcome events after hafter
  obtain ⟨_, htold, rfl⟩ := runs_map.mp hafter
  refine ⟨events, [], _, (List.append_nil _).symm, rfl, ?_, by simp, rfl, rfl⟩
  rw [hnotices, List.map_map]
  exact runs_notifyEach.mp htold

theorem course_of_update {operation : Operation} {result : Except ServiceFault Outcome}
    (hbatch : operation.batch = batch) (hinvalid : operation.invalid? = turnDownInvalid? batch)
    (hname : operation.newName? = none) (hmutation : operation.mutation? = some .update)
    (hnotices : ∀ batch, operation.notices user batch =
      batch.map fun changed => .standard .updated user changed.name)
    (hruns : Runs (update config wording user batch) events result) :
    operation.Course config wording user events result := by
  unfold update at hruns
  cases hoff : turnDownInvalid? batch with
  | some outcome =>
      rw [hoff] at hruns
      obtain ⟨rfl, rfl⟩ := Dialogue.runs_done_iff.mp hruns
      exact .invalid (hinvalid.trans hoff)
  | none =>
      rw [hoff] at hruns
      exact course_of_changeAll hbatch (hinvalid.trans hoff) hname hmutation hnotices hruns

theorem notices_activate {changed : List Subscription} :
    (Operation.activate batch).notices user changed = changed.map fun changed =>
      .standard (if changed.isActive then .activated else .deactivated) user changed.name := by
  refine List.map_congr_left fun subscription _ => ?_
  by_cases hon : subscription.activity = .on
  · simp only [Subscription.isActive, hon, decide_true, if_true]
    exact (subscription.standard_eq_news (by decide)).symm
  · simp only [Subscription.isActive, hon, decide_false, Bool.false_eq_true, if_false]
    exact (subscription.standard_eq_news (by decide)).symm

theorem course_of_activate {result : Except ServiceFault Outcome}
    (hruns : Runs (activate config wording user batch) events result) :
    (Operation.activate batch).Course config wording user events result := by
  unfold activate at hruns
  cases hoff : turnDownInvalid? batch with
  | some outcome =>
      rw [hoff] at hruns
      obtain ⟨rfl, rfl⟩ := Dialogue.runs_done_iff.mp hruns
      exact .invalid hoff
  | none =>
      rw [hoff] at hruns
      exact course_of_changeAll rfl hoff rfl rfl (fun _ => notices_activate) hruns

theorem runs_concluded {kind : NoticeKind} {changes : List Change}
    {answer : Except RegistryFault Unit} {result : Except ServiceFault Outcome}
    (hruns : Runs (concluded user kind batch changes answer) events result) :
    (∃ fault, answer = .error fault ∧ events = [] ∧ result = .error (.registry fault)) ∨
    (answer = .ok () ∧
      events.map Event.query = batch.map (fun changed =>
        .notify (.standard kind user changed.name)) ∧
      result = .ok {
        reply := .success (completionMessage batch kind.label)
        subscriptions := batch
        record := { Record.empty with steps := [.actionExecuted], changes := changes } }) := by
  rcases answer with fault | ⟨⟩
  · obtain ⟨rfl, rfl⟩ := runs_done_iff.mp hruns
    exact .inl ⟨fault, rfl, rfl, rfl⟩
  · obtain ⟨_, htold, rfl⟩ := runs_map.mp hruns
    exact .inr ⟨rfl, runs_notifyEach.mp htold, rfl⟩

theorem course_of_deactivate {result : Except ServiceFault Outcome}
    (hruns : Runs (deactivate user batch) events result) :
    (Operation.deactivate batch).Course config wording user events result := by
  cases batch with
  | nil =>
      obtain ⟨rfl, rfl⟩ := runs_done_iff.mp hruns
      exact .nothing rfl rfl
  | cons first rest =>
      obtain ⟨answer, told, rfl, htold⟩ := runs_call_bind.mp hruns
      rcases runs_concluded htold with ⟨fault, rfl, rfl, rfl⟩ | ⟨rfl, hqueries, rfl⟩
      · exact .notDeactivated fault (List.cons_ne_nil first rest)
      · exact .deactivated (List.cons_ne_nil first rest) (hqueries.trans List.map_map.symm)

theorem course_of_delete {result : Except ServiceFault Outcome}
    (hruns : Runs (delete user batch) events result) :
    (Operation.delete batch).Course config wording user events result := by
  cases batch with
  | nil =>
      obtain ⟨rfl, rfl⟩ := runs_done_iff.mp hruns
      exact .nothing rfl rfl
  | cons first rest =>
      obtain ⟨answer, told, rfl, htold⟩ := runs_call_bind.mp hruns
      rcases runs_concluded htold with ⟨fault, rfl, rfl, rfl⟩ | ⟨rfl, hqueries, rfl⟩
      · exact .notDeleted fault (List.cons_ne_nil first rest)
      · exact .deleted (List.cons_ne_nil first rest) (hqueries.trans List.map_map.symm)

theorem course_of_perform {result : Except ServiceFault Outcome}
    (hruns : Runs (Negotiation.run config wording user .given batch) events result) :
    (Operation.perform batch).Course config wording user events result := by
  have hfollow : (Operation.perform batch).FollowUp user result [] result := by
    rcases result with fault | outcome
    · exact .refused
    cases hexecuted : outcome.record.actionExecuted with
    | false => exact .unchanged hexecuted
    | true =>
        exact @Operation.FollowUp.changed user _ outcome [] [] outcome.reply hexecuted rfl
          (by simp) rfl rfl
  rw [← List.append_nil events]
  exact .negotiated rfl rfl (runs_run.mp hruns) hfollow

end Desk

theorem Operation.course_of_runs {config : DeskConfig} {wording : Wording} {user : UserId}
    {operation : Operation} {events : List Event} {result : Except ServiceFault Outcome}
    (hruns : Dialogue.Runs (operation.run config wording user) events result) :
    operation.Course config wording user events result := by
  cases operation with
  | store subscription =>
      exact Desk.course_of_storeNew rfl rfl rfl rfl (fun _ => rfl)
        (fun _ _ _ _ => Desk.runs_summarised) hruns
  | storeAdhoc subscription =>
      exact Desk.course_of_storeNew rfl rfl rfl rfl (fun _ => rfl)
        (fun _ _ _ _ => Desk.runs_estimated) hruns
  | update subscription => exact Desk.course_of_update rfl rfl rfl rfl (fun _ => rfl) hruns
  | updateAll batch => exact Desk.course_of_update rfl rfl rfl rfl (fun _ => rfl) hruns
  | activate batch => exact Desk.course_of_activate hruns
  | deactivate batch => exact Desk.course_of_deactivate hruns
  | delete batch => exact Desk.course_of_delete hruns
  | perform batch => exact Desk.course_of_perform hruns

end SubscriptionDesk

import SubscriptionDesk.Proofs.Alike

/-!
# Operations are alike whatever housekeeping answers

Whether a notice arrives and whether the bandwidth manager is reset changes neither the calls of an
operation nor its result, but for what the record says of the reset.
-/

namespace SubscriptionDesk

/-- Two answers that fail alike or succeed alike. -/
inductive Agree {ε α : Type} (fault : ε → ε → Prop) (value : α → α → Prop) :
    Except ε α → Except ε α → Prop where
  | error {first second : ε} : fault first second → Agree fault value (.error first) (.error second)
  | ok {first second : α} : value first second → Agree fault value (.ok first) (.ok second)

/-- Outcomes that differ in nothing but their records. -/
structure Outcome.Matches (same : Record → Record → Prop) (first second : Outcome) : Prop where
  reply : first.reply = second.reply
  subscriptions : first.subscriptions = second.subscriptions
  record : same first.record second.record

abbrev SameResult (same : Record → Record → Prop) :
    Except ServiceFault Outcome → Except ServiceFault Outcome → Prop :=
  Agree Eq (Outcome.Matches same)

/-- Whether records that differ in what housekeeping has answered are taken for the same. -/
structure Tolerant (free : Query → Prop) (same : Record → Record → Prop) : Prop where
  housekeeping : ∀ query, free query → query = .resetManager ∨ ∃ notice, query = .notify notice
  refl : ∀ record, same record record
  push : ∀ {first second} step, same first second → same (first.push step) (second.push step)
  executed : ∀ {first second}, same first second → first.actionExecuted = second.actionExecuted
  reset : free .resetManager →
    ∀ record first second, same (Record.afterReset record first) (Record.afterReset record second)

namespace Tolerant

open Dialogue Negotiation

variable {free : Query → Prop} {same : Record → Record → Prop} {config : DeskConfig}
  {wording : Wording} {user : UserId} {mutation : Mutation} {batch : List Subscription}
  {record : Record}

theorem outcome_refl (htolerant : Tolerant free same) (outcome : Outcome) :
    outcome.Matches same outcome :=
  ⟨rfl, rfl, htolerant.refl outcome.record⟩

theorem result_refl (htolerant : Tolerant free same) (result : Except ServiceFault Outcome) :
    SameResult same result result := by
  cases result with
  | error fault => exact .error rfl
  | ok outcome => exact .ok (htolerant.outcome_refl outcome)

theorem not_free (htolerant : Tolerant free same) {query : Query}
    (hreset : query ≠ .resetManager) (hnotice : ∀ notice, query ≠ .notify notice) :
    ¬free query := by
  intro hfree
  rcases htolerant.housekeeping query hfree with hquery | ⟨notice, hquery⟩
  · exact hreset hquery
  · exact hnotice notice hquery

theorem call (htolerant : Tolerant free same) {α β : Type} {rel : α → β → Prop} {query : Query}
    {f : query.Answer → Dialogue α} {g : query.Answer → Dialogue β}
    (hreset : query ≠ .resetManager) (hnotice : ∀ notice, query ≠ .notify notice)
    (hnext : ∀ answer, Alike free rel (f answer) (g answer)) :
    Alike free rel (Dialogue.call query >>= f) (Dialogue.call query >>= g) :=
  Alike.call (htolerant.not_free hreset hnotice) hnext

theorem alike_resetManager (htolerant : Tolerant free same) :
    Alike free same (resetManager record) (resetManager record) := by
  refine .ask fun first second hanswers => ?_
  have hafter : same (record.afterReset first) (record.afterReset second) := by
    rcases hanswers with hfree | rfl
    · exact htolerant.reset hfree record first second
    · exact htolerant.refl _
  rcases first with fault | ⟨⟩ <;> rcases second with other | ⟨⟩ <;> exact .done hafter

theorem alike_breakOff (htolerant : Tolerant free same) :
    Alike free (Outcome.Matches same) (breakOff batch record) (breakOff batch record) := by
  refine htolerant.alike_resetManager.bind fun first second hsame => ?_
  exact .done ⟨rfl, rfl, htolerant.push _ hsame⟩

theorem alike_notify {notice : Notice} : Alike free Eq (notify notice) (notify notice) :=
  .drop (.done rfl)

theorem alike_notifyEach {notice : Subscription → Notice} :
    Alike free Eq (notifyEach notice batch) (notifyEach notice batch) := by
  induction batch with
  | nil => exact .done rfl
  | cons subscription rest ih => exact alike_notify.bind fun _ _ _ => ih

theorem alike_passOverlap (htolerant : Tolerant free same) :
    Alike free (Agree (Outcome.Matches same) Eq) (passOverlap config batch record)
      (passOverlap config batch record) := by
  unfold passOverlap
  split
  · exact .done (.ok rfl)
  refine htolerant.call (by simp) (by simp) fun answer => ?_
  rcases answer with fault | ⟨kind, names⟩
  · exact htolerant.alike_breakOff.bind fun first second hsame => .done (.error hsame)
  cases kind with
  | clear => exact .done (.ok rfl)
  | partlyCovered =>
      exact htolerant.call (by simp) (by simp) fun _ => .done (.ok rfl)
  | duplicate => exact .done (.error (htolerant.outcome_refl _))

theorem alike_storeEach (htolerant : Tolerant free same) :
    Alike free Eq (Mutation.storeEach user batch) (Mutation.storeEach user batch) := by
  induction batch with
  | nil => exact .done rfl
  | cons subscription rest ih =>
      refine htolerant.call (by simp) (by simp) fun answer => ?_
      rcases answer with fault | ⟨⟩
      · exact .done rfl
      · exact ih

theorem alike_mutation (htolerant : Tolerant free same) :
    Alike free Eq (mutation.run user batch) (mutation.run user batch) := by
  cases mutation with
  | create | createQuery =>
      refine htolerant.alike_storeEach.bind ?_
      rintro answer _ rfl
      exact .done rfl
  | update | activate =>
      exact htolerant.call (by simp) (by simp) fun answer => .done rfl
  | given =>
      refine .ask fun first second hanswers => ?_
      exact .done (hanswers.resolve_left (htolerant.not_free (by simp) (by simp)))

theorem alike_execute (htolerant : Tolerant free same) :
    Alike free (Agree Eq Eq) (execute mutation user batch record)
      (execute mutation user batch record) := by
  refine htolerant.alike_mutation.bind ?_
  rintro answer _ rfl
  rcases answer with fault | message
  · exact htolerant.alike_resetManager.bind fun _ _ _ => .done (.error rfl)
  · exact .done (.ok rfl)

theorem alike_flagUnscheduled (htolerant : Tolerant free same) {name : SubscriptionName} :
    Alike free Eq (flagUnscheduled user record name) (flagUnscheduled user record name) := by
  refine htolerant.call (by simp) (by simp) fun answer => ?_
  rcases answer with fault | _ | stored
  · exact .done rfl
  · exact .done rfl
  refine htolerant.call (by simp) (by simp) fun answer => ?_
  rcases answer with fault | ⟨⟩ <;> exact .done rfl

theorem alike_flagEach (htolerant : Tolerant free same) {names : List SubscriptionName} :
    Alike free Eq (flagEach user names record) (flagEach user names record) := by
  induction names generalizing record with
  | nil => exact .done rfl
  | cons name rest ih =>
      refine htolerant.alike_flagUnscheduled.bind ?_
      rintro flagged _ rfl
      exact alike_notify.bind fun _ _ _ => ih

theorem alike_settle (htolerant : Tolerant free same) {message : String} :
    Alike free (fun first second => first.1 = second.1 ∧ same first.2 second.2)
      (settle user batch message record) (settle user batch message record) := by
  refine htolerant.call (by simp) (by simp) fun answer => ?_
  rcases answer with fault | names
  · exact htolerant.alike_resetManager.bind fun first second hsame => .done ⟨rfl, hsame⟩
  · refine htolerant.alike_flagEach.bind ?_
    rintro flagged _ rfl
    exact .done ⟨rfl, htolerant.refl _⟩

theorem alike_force (htolerant : Tolerant free same) {plan : Plan} :
    Alike free (SameResult same) (force user mutation batch plan record)
      (force user mutation batch plan record) := by
  have htold : Alike free Eq (notifyLatency user plan) (notifyLatency user plan) := by
    unfold notifyLatency
    split
    · exact alike_notify
    · exact .done rfl
  refine htold.bind fun _ _ _ => htolerant.alike_execute.bind fun first second hexecuted => ?_
  cases hexecuted with
  | error hfault => exact .done (.error hfault)
  | ok hvalue =>
      subst hvalue
      exact htolerant.alike_settle.bind fun _ _ hsettled =>
        .done (.ok ⟨congrArg Reply.success hsettled.1, rfl, hsettled.2⟩)

theorem alike_propose (htolerant : Tolerant free same) :
    Alike free (SameResult same) (propose config wording user mutation batch record)
      (propose config wording user mutation batch record) := by
  refine htolerant.call (by simp) (by simp) fun answer => ?_
  rcases answer with fault | proposal
  · exact htolerant.alike_breakOff.bind fun _ _ hsame => .done (.ok hsame)
  dsimp only
  split
  · refine htolerant.call (by simp) (by simp) fun decision => ?_
    dsimp only
    split
    · unfold abandon
      split
      · exact htolerant.call (by simp) (by simp) fun _ => .done (htolerant.result_refl _)
      · exact .done (htolerant.result_refl _)
    · exact htolerant.alike_force
  · refine htolerant.alike_execute.bind fun first second hexecuted => ?_
    cases hexecuted with
    | error hfault => exact .done (.error hfault)
    | ok hvalue =>
        subst hvalue
        exact .done (htolerant.result_refl _)

theorem alike_negotiation (htolerant : Tolerant free same) :
    Alike free (SameResult same) (Negotiation.run config wording user mutation batch)
      (Negotiation.run config wording user mutation batch) := by
  unfold Negotiation.run
  split
  · exact .done (htolerant.result_refl _)
  refine htolerant.alike_passOverlap.bind fun first second hpassed => ?_
  cases hpassed with
  | error hsame => exact .done (.ok hsame)
  | ok hvalue =>
      subst hvalue
      exact htolerant.alike_propose

/-! ### What comes before and after a negotiation -/

open Desk

theorem alike_turnDownNew (htolerant : Tolerant free same) {subscription : Subscription} :
    Alike free (Option.Rel (Outcome.Matches same)) (turnDownNew? subscription)
      (turnDownNew? subscription) := by
  unfold turnDownNew?
  split
  · exact .done (.some (htolerant.outcome_refl _))
  refine htolerant.call (by simp) (by simp) fun answer => ?_
  rcases answer with fault | _ | found
  · exact htolerant.alike_breakOff.bind fun _ _ hsame => .done (.some hsame)
  · exact .done .none
  · exact .done (.some (htolerant.outcome_refl _))

theorem alike_summarised (htolerant : Tolerant free same) {first second : Outcome}
    {subscription : Subscription} (hsame : first.Matches same second) :
    Alike free (Outcome.Matches same) (summarised first subscription)
      (summarised second subscription) := by
  refine htolerant.call (by simp) (by simp) fun answer => ?_
  rcases answer with fault | summary
  · exact .done hsame
  · exact .done ⟨congrArg (Reply.withStatusSummary · summary) hsame.reply, hsame.subscriptions,
      hsame.record⟩

theorem alike_estimated (htolerant : Tolerant free same) {first second : Outcome}
    {query : Subscription} (hsame : first.Matches same second) :
    Alike free (Outcome.Matches same) (estimated first query) (estimated second query) := by
  refine htolerant.call (by simp) (by simp) fun summary => ?_
  refine htolerant.call (by simp) (by simp) fun estimate => ?_
  rcases estimate with fault | _ | millis
  · exact .done ⟨congrArg (Reply.withStatusSummary · _) hsame.reply, hsame.subscriptions,
      hsame.record⟩
  · exact .done ⟨congrArg (Reply.withStatusSummary · _) hsame.reply, hsame.subscriptions,
      hsame.record⟩
  · exact .done ⟨congrArg (withEstimate · _ millis) hsame.reply, hsame.subscriptions, hsame.record⟩

theorem alike_afterChange (htolerant : Tolerant free same)
    {first second : Except ServiceFault Outcome} {next : Outcome → Dialogue Outcome}
    (hnext : ∀ left right, left.Matches same right →
      Alike free (Outcome.Matches same) (next left) (next right))
    (hsame : SameResult same first second) :
    Alike free (SameResult same) (afterChange first next) (afterChange second next) := by
  cases hsame with
  | error hfault => exact .done (.error hfault)
  | @ok left right houtcome =>
      unfold afterChange
      dsimp only
      rw [htolerant.executed houtcome.record]
      split
      · exact (hnext left right houtcome).bind fun _ _ hsame => .done (.ok hsame)
      · exact .done (.ok houtcome)

theorem alike_storeNew (htolerant : Tolerant free same) {subscription : Subscription}
    {report : Outcome → Subscription → Dialogue Outcome}
    (hreport : ∀ left right stored, left.Matches same right →
      Alike free (Outcome.Matches same) (report left stored) (report right stored)) :
    Alike free (SameResult same) (storeNew config wording user mutation subscription report)
      (storeNew config wording user mutation subscription report) := by
  refine htolerant.alike_turnDownNew.bind fun first second hturned => ?_
  cases hturned with
  | some hsame => exact .done (.ok hsame)
  | none =>
      refine htolerant.alike_negotiation.bind fun left right hsame =>
        htolerant.alike_afterChange (fun left right hsame => ?_) hsame
      rw [hsame.subscriptions]
      refine alike_notifyEach.bind fun _ _ _ => ?_
      cases right.subscriptions with
      | nil => exact .done hsame
      | cons stored rest => exact hreport left right stored hsame

theorem alike_changeAll (htolerant : Tolerant free same) {kind : Subscription → NoticeKind} :
    Alike free (SameResult same) (changeAll config wording user mutation batch kind)
      (changeAll config wording user mutation batch kind) := by
  refine htolerant.alike_negotiation.bind fun left right hsame =>
    htolerant.alike_afterChange (fun left right hsame => ?_) hsame
  rw [hsame.subscriptions]
  exact alike_notifyEach.bind fun _ _ _ => .done hsame

theorem alike_update (htolerant : Tolerant free same) :
    Alike free (SameResult same) (Desk.update config wording user batch)
      (Desk.update config wording user batch) := by
  unfold Desk.update
  split
  · exact .done (htolerant.result_refl _)
  · exact htolerant.alike_changeAll

theorem alike_concluded (htolerant : Tolerant free same) {kind : NoticeKind}
    {changes : List Change} {answer : Except RegistryFault Unit} :
    Alike free (SameResult same) (concluded user kind batch changes answer)
      (concluded user kind batch changes answer) := by
  rcases answer with fault | ⟨⟩
  · exact .done (htolerant.result_refl _)
  · exact alike_notifyEach.bind fun _ _ _ => .done (htolerant.result_refl _)

/-- **Housekeeping makes no difference.** -/
theorem alike_operation (htolerant : Tolerant free same) (operation : Operation) :
    Alike free (SameResult same) (operation.run config wording user)
      (operation.run config wording user) := by
  cases operation with
  | store subscription =>
      exact htolerant.alike_storeNew fun _ _ _ => htolerant.alike_summarised
  | storeAdhoc subscription =>
      exact htolerant.alike_storeNew fun _ _ _ => htolerant.alike_estimated
  | update subscription => exact htolerant.alike_update
  | updateAll batch => exact htolerant.alike_update
  | activate batch =>
      change Alike free _ (Desk.activate config wording user batch)
        (Desk.activate config wording user batch)
      unfold Desk.activate
      split
      · exact .done (htolerant.result_refl _)
      · exact htolerant.alike_changeAll
  | deactivate batch =>
      change Alike free _ (Desk.deactivate user batch) (Desk.deactivate user batch)
      unfold Desk.deactivate
      split
      · exact .done (htolerant.result_refl _)
      · exact htolerant.call (by simp) (by simp) fun answer => htolerant.alike_concluded
  | delete batch =>
      change Alike free _ (Desk.delete user batch) (Desk.delete user batch)
      unfold Desk.delete
      split
      · exact .done (htolerant.result_refl _)
      · exact htolerant.call (by simp) (by simp) fun answer => htolerant.alike_concluded
  | perform batch => exact htolerant.alike_negotiation

end Tolerant

end SubscriptionDesk

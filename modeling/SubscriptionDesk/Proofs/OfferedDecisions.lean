import SubscriptionDesk.Proofs.DecisionPlans
import SubscriptionDesk.Proofs.Runs

/-!
# The decisions that are offered, and what they lead to

Whether a decision is offered depends on its text, and the text on what the prompt shows. What it
leads to depends on its plan, and the plan on the batch. Both come down to one question, which is
whether the batch is a single subscription and nothing else would be unscheduled. A higher latency
can help only then, and to edit or to force only otherwise. So whatever is offered does something.
-/

namespace SubscriptionDesk

namespace Decision

theorem mem_all (decision : Decision) : decision ∈ all := by
  cases decision <;> decide

theorem nodup_all : all.Nodup := by decide

def alternatives : List Decision :=
  [.editSubscriptions, .forceApplyDeactivated, .forceApplyUnscheduled]

end Decision

/-! ### Which decisions are offered -/

def offered (offers : List Offer) : List Decision := offers.map Offer.decision

theorem Negotiation.noteDecision_of_mem_offered {offers : List Offer} {decision : Decision}
    (hoffered : decision ∈ offered offers) (record : Record) :
    noteDecision record offers decision = record.push (.prompted decision) := by
  obtain ⟨offer, hoffer, rfl⟩ := List.mem_map.mp hoffered
  have hany : (offers.any fun other => decide (other.decision = offer.decision)) = true :=
    List.any_eq_true.mpr ⟨offer, hoffer, decide_eq_true rfl⟩
  unfold noteDecision
  rw [if_pos hany]

namespace PromptConfiguration

variable {configuration : PromptConfiguration} {wording : Wording} {proposal : Proposal}
  {decision : Decision}

def textFor (configuration : PromptConfiguration) (wording : Wording) (proposal : Proposal)
    (decision : Decision) : Option String :=
  wording decision (configuration.latencyInQuestion proposal) configuration.subject
    configuration.wouldBeUnscheduled

theorem offered_eq_filter :
    offered (configuration.offers wording proposal) = Decision.all.filter fun decision =>
      decide (decision = .cancel) || (configuration.textFor wording proposal decision).isSome := by
  unfold offered offers
  rw [List.map_filterMap, ← List.filterMap_eq_filter]
  apply List.filterMap_congr
  intro decision hdecision
  -- The text of an offer does not matter, only whether there is one.
  cases htext : configuration.textFor wording proposal decision with
  | some text =>
      rw [textFor] at htext
      simp [Option.guard, textFor, htext]
  | none =>
      rw [textFor] at htext
      by_cases hcancel : decision = .cancel
      · subst hcancel
        simp [Option.guard, htext]
      · simp [Option.guard, textFor, htext, hcancel]

theorem mem_offered_iff :
    decision ∈ offered (configuration.offers wording proposal) ↔
      decision = .cancel ∨ (configuration.textFor wording proposal decision).isSome = true := by
  rw [offered_eq_filter, List.mem_filter, and_iff_right decision.mem_all, Bool.or_eq_true,
    decide_eq_true_iff]

theorem offered_sublist :
    (offered (configuration.offers wording proposal)).Sublist Decision.all := by
  rw [offered_eq_filter]
  exact List.filter_sublist

theorem head?_offered : (offered (configuration.offers wording proposal)).head? = some .cancel := by
  rw [offered_eq_filter]
  rfl

end PromptConfiguration

/-! ### The texts of the standard wording -/

/-- The batch is a single subscription, and nothing else would be unscheduled. -/
def SoleSubject (batch : List Subscription) (proposal : Proposal) : Prop :=
  ∃ subscription, batch = [subscription] ∧ proposal.unscheduled.members = [subscription.name]

theorem onlySubjectUnscheduled_iff {subject : Option Subscription}
    {names : NameSet .subscription} :
    onlySubjectUnscheduled subject names = true ↔
      ∃ subscription, subject = some subscription ∧ names.members = [subscription.name] := by
  cases subject with
  | none => simp [onlySubjectUnscheduled]
  | some subscription =>
      simp only [Option.some.injEq, exists_eq_left']
      change (names.members.length == 1 && decide (subscription.name ∈ names.members)) = true ↔ _
      rw [Bool.and_eq_true, beq_iff_eq, decide_eq_true_iff]
      constructor
      · rintro ⟨hsize, hmem⟩
        obtain ⟨name, hmembers⟩ := List.length_eq_one_iff.mp hsize
        rw [hmembers] at hmem ⊢
        rw [List.mem_singleton.mp hmem]
      · intro hmembers
        simp [hmembers]

theorem isSome_standardWording_increaseLatency_iff {required : UInt32}
    {subject : Option Subscription} {names : NameSet .subscription} :
    (standardWording .increaseLatency required subject names).isSome = true ↔
      ∃ subscription, subject = some subscription ∧ names.members = [subscription.name] ∧
        subscription.latency < required := by
  cases subject with
  | none => simp [standardWording]
  | some subscription =>
      simp only [standardWording, Option.isSome_ite, Bool.and_eq_true, decide_eq_true_iff,
        onlySubjectUnscheduled_iff, Option.some.injEq, exists_eq_left']

theorem isSome_standardWording {decision : Decision} {required : UInt32}
    {subject : Option Subscription} {names : NameSet .subscription}
    (halternative : decision ∈ Decision.alternatives) :
    (standardWording decision required subject names).isSome =
      !onlySubjectUnscheduled subject names := by
  simp only [Decision.alternatives, List.mem_cons, List.not_mem_nil, or_false] at halternative
  rcases halternative with rfl | rfl | rfl
  all_goals
    unfold standardWording
    cases onlySubjectUnscheduled subject names <;> rfl

def standardOffers (title : String) (batch : List Subscription) (proposal : Proposal)
    (default : UInt32) : List Offer :=
  (PromptConfiguration.ofProposal title batch proposal default).offers standardWording proposal

section Standard

variable {title : String} {batch : List Subscription} {proposal : Proposal} {default : UInt32}

theorem PromptConfiguration.wouldBeUnscheduled_ofProposal :
    (ofProposal title batch proposal default).wouldBeUnscheduled = proposal.unscheduled := by
  unfold ofProposal
  split <;> rfl

theorem PromptConfiguration.subject_ofProposal_iff {subscription : Subscription} :
    (ofProposal title batch proposal default).subject = some subscription ↔
      batch = [subscription] := by
  unfold ofProposal
  split
  · simp [single]
  · rename_i hmany
    constructor
    · intro hsubject
      contradiction
    · intro hsingle
      exact absurd hsingle (hmany subscription)

theorem PromptConfiguration.onlySubject_ofProposal_iff :
    (ofProposal title batch proposal default).onlySubject = true ↔
      SoleSubject batch proposal := by
  unfold onlySubject
  rw [wouldBeUnscheduled_ofProposal, onlySubjectUnscheduled_iff]
  exact exists_congr fun subscription => and_congr_left' subject_ofProposal_iff

theorem PromptConfiguration.increaseLatency_mem_offered_iff :
    .increaseLatency ∈ offered (standardOffers title batch proposal default) ↔
      ∃ subscription, batch = [subscription] ∧
        proposal.unscheduled.members = [subscription.name] ∧
        subscription.latency < proposal.requiredLatency := by
  unfold standardOffers
  rw [mem_offered_iff, or_iff_right (by decide)]
  unfold textFor
  rw [wouldBeUnscheduled_ofProposal, latencyInQuestion_ofProposal,
    isSome_standardWording_increaseLatency_iff]
  exact exists_congr fun subscription => and_congr_left' subject_ofProposal_iff

theorem PromptConfiguration.mem_offered_iff_of_mem_alternatives {decision : Decision}
    (halternative : decision ∈ Decision.alternatives) :
    decision ∈ offered (standardOffers title batch proposal default) ↔
      ¬SoleSubject batch proposal := by
  have hcancel : decision ≠ .cancel := by
    rintro rfl
    exact absurd halternative (by decide)
  unfold standardOffers
  rw [mem_offered_iff, or_iff_right hcancel]
  unfold textFor
  rw [isSome_standardWording halternative, Bool.not_eq_true', ← Bool.not_eq_true]
  exact not_congr onlySubject_ofProposal_iff

end Standard

/-! ### What an offer leads to -/

/-- What an offer may come to. An abort that neither cancels nor opens the subscription manager for
all that would be unscheduled is not among it, nor is a change of nothing or one with a warning. -/
inductive Resolution.Effective (proposal : Proposal) : Decision → Resolution → Prop where
  | cancelled : Effective proposal .cancel (.abort none)
  | opened : Effective proposal .editSubscriptions (.abort (some proposal.unscheduled))
  | changed {decision : Decision} {plan : Plan} :
      plan.changes ≠ [] → plan.warnings = [] → Effective proposal decision (.apply plan)

/-- How the decisions that are offered for a batch agree with what they lead to. -/
structure OffersAgree (batch : List Subscription) (proposal : Proposal)
    (configuration : PromptConfiguration) (offers : List Offer) : Prop where
  cancelFirst : (offered offers).head? = some .cancel
  inOrder : (offered offers).Sublist Decision.all
  nodup : (offered offers).Nodup
  increaseLatency_iff : .increaseLatency ∈ offered offers ↔
    ∃ subscription, batch = [subscription] ∧
      proposal.unscheduled.members = [subscription.name] ∧
      subscription.latency < proposal.requiredLatency
  increases : .increaseLatency ∈ offered offers →
    ∃ subscription plan, batch = [subscription] ∧
      Decision.increaseLatency.resolve batch proposal configuration = .apply plan ∧
      subscription.latency < proposal.requiredLatency ∧
      plan.applyTo batch =
        [{ subscription with latency := proposal.requiredLatency, activity := .on }] ∧
      (plan.applyTo batch).map Subscription.latency = [proposal.requiredLatency] ∧
      plan.warnings = []
  /-- Editing and forcing are offered all together. -/
  alternatives_iff : ∀ decision ∈ Decision.alternatives,
    decision ∈ offered offers ↔ ¬SoleSubject batch proposal
  opensManager : .editSubscriptions ∈ offered offers →
    Decision.editSubscriptions.resolve batch proposal configuration =
      .abort (some proposal.unscheduled)
  forces : ∀ decision force, decision.force? = some force →
    decision ∈ offered offers →
      ∃ plan, decision.resolve batch proposal configuration = .apply plan ∧
        plan.applyTo batch = batch.map force
  effective : ∀ decision ∈ offered offers,
    (decision.resolve batch proposal configuration).Effective proposal decision
  unwarned : ∀ decision ∈ offered offers, ∀ record,
    Negotiation.noteDecision record offers decision = record.push (.prompted decision)

section Standard

variable {title : String} {batch : List Subscription} {proposal : Proposal} {default : UInt32}

theorem resolve_increaseLatency_of_offered
    (hoffered : .increaseLatency ∈ offered (standardOffers title batch proposal default)) :
    ∃ subscription, batch = [subscription] ∧ subscription.latency < proposal.requiredLatency ∧
      Decision.increaseLatency.resolve batch proposal
          (.ofProposal title batch proposal default) =
        .apply (.raiseLatency subscription 1 proposal.requiredLatency) := by
  obtain ⟨subscription, rfl, -, hhigher⟩ :=
    PromptConfiguration.increaseLatency_mem_offered_iff.mp hoffered
  exact ⟨subscription, rfl, hhigher, Decision.resolve_increaseLatency_of_lt hhigher⟩

theorem resolve_editSubscriptions_of_offered
    (hoffered : .editSubscriptions ∈ offered (standardOffers title batch proposal default)) :
    Decision.editSubscriptions.resolve batch proposal
        (.ofProposal title batch proposal default) =
      .abort (some proposal.unscheduled) := by
  have hothers : ¬SoleSubject batch proposal :=
    (PromptConfiguration.mem_offered_iff_of_mem_alternatives (by decide)).mp hoffered
  rw [← PromptConfiguration.onlySubject_ofProposal_iff] at hothers
  unfold Decision.resolve
  rw [if_neg hothers, PromptConfiguration.wouldBeUnscheduled_ofProposal]

theorem effective_of_offered (hbatch : batch ≠ []) {decision : Decision}
    (hoffered : decision ∈ offered (standardOffers title batch proposal default)) :
    (decision.resolve batch proposal
      (.ofProposal title batch proposal default)).Effective proposal decision := by
  obtain ⟨first, rest, rfl⟩ := List.exists_cons_of_ne_nil hbatch
  cases decision with
  | cancel => exact .cancelled
  | increaseLatency =>
      obtain ⟨subscription, -, -, hresolve⟩ := resolve_increaseLatency_of_offered hoffered
      rw [hresolve]
      exact .changed (List.cons_ne_nil _ _) rfl
  | editSubscriptions =>
      rw [resolve_editSubscriptions_of_offered hoffered]
      exact .opened
  | forceApplyDeactivated | forceApplyUnscheduled =>
      exact .changed (List.cons_ne_nil _ _) rfl

/-- **What is offered does something.** Cancelling is always offered. A higher latency is offered
exactly if it raises the latency of the one subscription that does not fit, and editing and forcing
are offered exactly if there is something else to edit or to leave unscheduled. -/
theorem offersAgree_standardWording (title : String) (batch : List Subscription)
    (proposal : Proposal) (default : UInt32) (hbatch : batch ≠ []) :
    OffersAgree batch proposal (.ofProposal title batch proposal default)
      (standardOffers title batch proposal default) := by
  constructor
  case cancelFirst => exact PromptConfiguration.head?_offered
  case inOrder => exact PromptConfiguration.offered_sublist
  case nodup => exact PromptConfiguration.offered_sublist.nodup Decision.nodup_all
  case increaseLatency_iff => exact PromptConfiguration.increaseLatency_mem_offered_iff
  case increases =>
    intro hoffered
    obtain ⟨subscription, rfl, hhigher, hresolve⟩ := resolve_increaseLatency_of_offered hoffered
    have happlied : (Plan.raiseLatency subscription 1 proposal.requiredLatency).applyTo
        [subscription] = [subscription.raised proposal.requiredLatency] :=
      Plan.applyTo_raiseLatency
    exact ⟨subscription, _, rfl, hresolve, hhigher, happlied,
      congrArg (List.map Subscription.latency) happlied, rfl⟩
  case alternatives_iff =>
    exact fun decision => PromptConfiguration.mem_offered_iff_of_mem_alternatives
  case opensManager => exact resolve_editSubscriptions_of_offered
  case forces => exact fun decision force hforce _ => Decision.resolve_of_force? hforce
  case effective => exact fun decision => effective_of_offered hbatch
  case unwarned => exact fun decision => Negotiation.noteDecision_of_mem_offered

/-- A single subscription that would fit with a higher latency. -/
theorem offersAgree_lone :
    [Subscription.sample "winds"] ≠ [] ∧
    OffersAgree [.sample "winds"] halfHourProposal
      (.ofProposal "Unable to Schedule" [.sample "winds"] halfHourProposal minutesPerDay)
      (standardOffers "Unable to Schedule" [.sample "winds"] halfHourProposal minutesPerDay) ∧
    offered (standardOffers "Unable to Schedule" [.sample "winds"] halfHourProposal
      minutesPerDay) = [.cancel, .increaseLatency] :=
  ⟨List.cons_ne_nil _ _,
    offersAgree_standardWording "Unable to Schedule" [.sample "winds"] halfHourProposal
      minutesPerDay (List.cons_ne_nil _ _),
    by decide +kernel⟩

end Standard

end SubscriptionDesk

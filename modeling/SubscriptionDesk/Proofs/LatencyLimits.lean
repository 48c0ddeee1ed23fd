import SubscriptionDesk.Proofs.OfferedDecisions
import SubscriptionDesk.Proofs.OverlapGate
import SubscriptionDesk.Proofs.RegistryEffect

/-!
# Raised latencies and their limits

A latency is raised only for a subscription that is the whole batch, and to what the bandwidth
manager requires. The prompt shows the limit of the subscription beside it. Nothing compares the
two, so that a subscription ends within its limit exactly if the bandwidth manager required no more.
-/

namespace SubscriptionDesk

def Event.answersOffer : Event → Bool
  | ⟨.prompt _ offers, decision⟩ => decide (decision ∈ offered offers)
  | _ => true

/-- Whether a run hands a subscription over to be stored, or returns it, at a place of the batch.
What is flagged besides is written back with the latency that was looked up. -/
def EndsWith (events : List Event) (result : Except ServiceFault Outcome) (place : Nat)
    (subscription : Subscription) : Prop :=
  (∃ event ∈ events, event.query.handed[place]? = some subscription) ∨
    ∃ outcome, result = .ok outcome ∧ outcome.subscriptions[place]? = some subscription

def WithinLimits (config : DeskConfig) (batch : List Subscription) (events : List Event)
    (result : Except ServiceFault Outcome) : Prop :=
  ∀ (place : Nat) (before after : Subscription), batch[place]? = some before →
    EndsWith events result place after → before.latency < after.latency →
      after.latency ≤ after.maximumLatency config.defaultMaximumLatency

structure Yields (events : List Event) (result : Except ServiceFault Outcome)
    (batch : List Subscription) : Prop where
  handsOver : HandsOver events batch
  returned : ∀ outcome, result = .ok outcome → outcome.subscriptions = batch

theorem Yields.getElem?_eq {events : List Event} {result : Except ServiceFault Outcome}
    {batch : List Subscription} {place : Nat} {subscription : Subscription}
    (hyields : Yields events result batch) (hends : EndsWith events result place subscription) :
    batch[place]? = some subscription := by
  rcases hends with ⟨event, hevent, hhanded⟩ | ⟨outcome, hresult, hreturned⟩
  · exact hyields.handsOver event hevent place subscription hhanded
  · rwa [hyields.returned outcome hresult] at hreturned

namespace Negotiation

/-- What a negotiation has agreed on with the user, by its calls. -/
inductive Agreed (config : DeskConfig) (wording : Wording) (batch : List Subscription)
    (events : List Event) : Plan → Prop where
  | unasked : Agreed config wording batch events .empty
  | decided {proposal : Proposal} {decision : Decision} {plan : Plan} :
      ⟨.propose batch, .ok proposal⟩ ∈ events →
      ⟨.prompt (question config batch proposal) (choices config wording batch proposal),
        decision⟩ ∈ events →
      decision.resolve batch proposal (question config batch proposal) = .apply plan →
      Agreed config wording batch events plan

variable {config : DeskConfig} {wording : Wording} {user : UserId} {mutation : Mutation}
  {submitted batch : List Subscription} {record : Record} {events others : List Event}
  {result : Except ServiceFault Outcome} {plan : Plan}

theorem Agreed.mono (hsubset : events ⊆ others)
    (hagreed : Agreed config wording batch events plan) :
    Agreed config wording batch others plan := by
  cases hagreed with
  | unasked => exact .unasked
  | decided hproposed hasked hresolve =>
      exact .decided (hsubset hproposed) (hsubset hasked) hresolve

theorem ProposalCourse.yields
    (hsingle : mutation = .create ∨ mutation = .createQuery → batch.length = 1)
    (hpropose : ProposalCourse config wording user mutation batch record events result) :
    ∃ plan, Agreed config wording batch events plan ∧
      Yields events result (plan.applyTo batch) := by
  cases hpropose with
  | failed fault reset =>
      refine ⟨.empty, .unasked, by simp [HandsOver, Query.handed], ?_⟩
      rintro outcome ⟨⟩
      rfl
  | @fits proposal change executed hfits hexecute =>
      have hproposed : HandsOver [⟨.propose batch, .ok proposal⟩] batch := by
        simp [HandsOver, Query.handed]
      refine ⟨.empty, .unasked, hproposed.append (hexecute.handsOver hsingle), ?_⟩
      intro outcome hresult
      obtain ⟨message, after, -, rfl⟩ := concluded_eq_ok_iff.mp hresult
      rfl
  | @abandoned proposal decision names hunfit hresolve =>
      refine ⟨.empty, .unasked, ?_, ?_⟩
      · cases names <;> simp [HandsOver, managerOpened, Query.handed]
      · rintro outcome ⟨⟩
        rfl
  | @forced proposal decision plan change result hunfit hresolve hforce =>
      have hasked : HandsOver [⟨.propose batch, .ok proposal⟩,
          ⟨.prompt (question config batch proposal) (choices config wording batch proposal),
            decision⟩] (plan.applyTo batch) := by
        simp [HandsOver, Query.handed]
      refine ⟨plan, .decided (by simp) (by simp) hresolve,
        hasked.append (hforce.handsOver hsingle), ?_⟩
      rintro outcome rfl
      obtain ⟨_, _, _, _, _, _, -, -, -, -, rfl⟩ := hforce.of_ok
      rfl

theorem OverlapCourse.yields {outcome : Outcome}
    (hcheck : OverlapCourse config batch record events (.error outcome)) :
    Yields events (.ok outcome) batch := by
  refine ⟨handsOver_of_untouched hcheck.untouched, ?_⟩
  rintro _ ⟨⟩
  cases hcheck <;> rfl

theorem Course.yields
    (hsingle : mutation = .create ∨ mutation = .createQuery → submitted.length = 1)
    (hcourse : Course config wording user mutation submitted events result) :
    ∃ plan, Agreed config wording (cleared submitted) events plan ∧
      Yields events result (plan.applyTo (cleared submitted)) := by
  cases hcourse with
  | empty hnil =>
      subst hnil
      refine ⟨.empty, .unasked, by simp [HandsOver], ?_⟩
      rintro outcome ⟨⟩
      rfl
  | stopped hsome hcheck => exact ⟨.empty, .unasked, hcheck.yields⟩
  | passed hsome hcheck hpropose =>
      have hlength (hnew : mutation = .create ∨ mutation = .createQuery) :
          (cleared submitted).length = 1 := by
        rw [cleared, List.length_map, hsingle hnew]
      obtain ⟨plan, hagreed, hyields⟩ := hpropose.yields hlength
      exact ⟨plan, hagreed.mono (List.subset_append_right _ _),
        (handsOver_of_untouched hcheck.untouched).append hyields.handsOver, hyields.returned⟩

/-! ### What is agreed on by an offered decision -/

theorem map_latency_cleared :
    (cleared submitted).map Subscription.latency = submitted.map Subscription.latency := by
  unfold cleared
  rw [List.map_map]
  rfl

theorem map_latency_force {decision : Decision} {force : Subscription → Subscription}
    (hforce : decision.force? = some force) :
    (batch.map force).map Subscription.latency = batch.map Subscription.latency := by
  rw [List.map_map]
  apply List.map_congr_left
  intro subscription hmem
  cases decision with
  | cancel | increaseLatency | editSubscriptions => contradiction
  | forceApplyDeactivated | forceApplyUnscheduled =>
      cases hforce
      rfl

/-- With the standard wording a latency is raised only where the batch is a single subscription. -/
theorem Agreed.latencies (hoffered : ∀ event ∈ events, event.answersOffer = true)
    (hagreed : Agreed config standardWording batch events plan) :
    (plan.applyTo batch).map Subscription.latency = batch.map Subscription.latency ∨
    ∃ subscription proposal, batch = [subscription] ∧
      ⟨.propose batch, .ok proposal⟩ ∈ events ∧
      ⟨.prompt (question config batch proposal)
        (choices config standardWording batch proposal), .increaseLatency⟩ ∈ events ∧
      plan.applyTo batch = [subscription.raised proposal.requiredLatency] := by
  cases hagreed with
  | unasked => exact .inl rfl
  | @decided proposal decision plan hproposed hasked hresolve =>
      cases hforce : decision.force? with
      | some force =>
          rw [Decision.applyTo_of_force? hforce hresolve]
          exact .inl (map_latency_force hforce)
      | none =>
          cases decision with
          | cancel | editSubscriptions | forceApplyDeactivated | forceApplyUnscheduled =>
              contradiction
          | increaseLatency =>
              have hchosen : .increaseLatency ∈ offered (standardOffers config.promptTitle batch
                  proposal config.defaultMaximumLatency) :=
                of_decide_eq_true (hoffered _ hasked)
              obtain ⟨subscription, rfl, -, hplan⟩ := resolve_increaseLatency_of_offered hchosen
              obtain rfl := Resolution.apply.inj (hresolve.symm.trans hplan)
              exact .inr
                ⟨subscription, proposal, rfl, hproposed, hasked, Plan.applyTo_raiseLatency⟩

end Negotiation

namespace Operation

open Negotiation

variable {config : DeskConfig} {wording : Wording} {user : UserId} {operation : Operation}
  {events : List Event} {result : Except ServiceFault Outcome}

theorem map_latency_of_invalid? {outcome : Outcome} (hinvalid : operation.invalid? = some outcome) :
    outcome.subscriptions.map Subscription.latency =
      operation.batch.map Subscription.latency := by
  cases operation with
  | deactivate | delete | perform => contradiction
  | activate batch =>
      obtain ⟨message, rfl⟩ := Desk.turnedDown_of_turnDownInvalid? hinvalid
      change batch.map Subscription.latency =
        (batch.map Subscription.activate).map Subscription.latency
      rw [List.map_map]
      rfl
  | _ =>
      obtain ⟨message, rfl⟩ := Desk.turnedDown_of_turnDownInvalid? hinvalid
      rfl

theorem handsOver_lookup {batch : List Subscription} : HandsOver operation.lookup batch := by
  unfold lookup
  cases operation.newName? <;> simp [HandsOver, Query.handed]

theorem Course.yields (hcourse : operation.Course config wording user events result) :
    (∃ batch, batch.map Subscription.latency = operation.batch.map Subscription.latency ∧
      Yields events result batch) ∨
    ∃ plan, Agreed config wording (cleared operation.batch) events plan ∧
      Yields events result (plan.applyTo (cleared operation.batch)) := by
  have hnotices {told : List Event} {notices : List Notice}
      (htold : told.map Event.query = notices.map Query.notify) {batch : List Subscription} :
      HandsOver told batch :=
    handsOver_of_untouched (untouched_of_notices htold)
  cases hcourse with
  | @invalid operation outcome hinvalid =>
      refine .inl ⟨outcome.subscriptions, map_latency_of_invalid? hinvalid, by simp [HandsOver], ?_⟩
      rintro _ ⟨⟩
      rfl
  | taken | unknown =>
      refine .inl ⟨operation.batch, rfl, by simp [HandsOver, Query.handed], ?_⟩
      rintro _ ⟨⟩
      rfl
  | @negotiated operation mutation negotiation tail negotiated _ hvalid hmutation hnegotiation
      hfollow =>
      obtain ⟨plan, hagreed, hyields⟩ := hnegotiation.yields (length_batch_of_new hmutation)
      refine .inr ⟨plan, hagreed.mono ?_, ?_, ?_⟩
      · exact List.Subset.trans (List.subset_append_left _ _) (List.subset_append_right _ _)
      · exact handsOver_lookup.append
          (hyields.handsOver.append (handsOver_of_untouched hfollow.untouched))
      · rintro outcome rfl
        obtain ⟨before, rfl, -, hbatch⟩ := hfollow.outcome_eq
        exact hbatch.trans (hyields.returned before rfl)
  | nothing hdirect hnil =>
      refine .inl ⟨operation.batch, rfl, by simp [HandsOver], ?_⟩
      rintro _ ⟨⟩
      exact hnil.symm
  | @deactivated batch told hsome htold =>
      have hstored : HandsOver [⟨.registry (.updateAll user (batch.map Subscription.deactivate)),
          .ok ()⟩] (batch.map Subscription.deactivate) := by
        simp [HandsOver, Query.handed]
      refine .inl ⟨_, rfl, hstored.append (hnotices htold), ?_⟩
      rintro _ ⟨⟩
      rfl
  | @deleted batch told hsome htold =>
      have hdeleted : HandsOver [⟨.registry (.delete user (batch.map Subscription.markDeleted)),
          .ok ()⟩] (batch.map Subscription.markDeleted) := by
        simp [HandsOver, Query.handed]
      refine .inl ⟨_, rfl, hdeleted.append (hnotices htold), ?_⟩
      rintro _ ⟨⟩
      rfl
  | @notDeactivated batch =>
      refine .inl ⟨batch.map Subscription.deactivate, rfl, by simp [HandsOver, Query.handed], ?_⟩
      rintro _ ⟨⟩
  | @notDeleted batch =>
      refine .inl ⟨batch.map Subscription.markDeleted, rfl, by simp [HandsOver, Query.handed], ?_⟩
      rintro _ ⟨⟩

end Operation

open Negotiation

structure RaisedAsRequired (config : DeskConfig) (batch : List Subscription)
    (events : List Event) (proposal : Proposal) (before after : Subscription) : Prop where
  alone : batch = [before]
  proposed : ⟨.propose [{ before with unscheduled := false }], .ok proposal⟩ ∈ events
  raised : after = { before with
    unscheduled := false, activity := .on, latency := proposal.requiredLatency }
  /-- The user has seen both latencies. -/
  shown : ∃ configuration offers,
    ⟨.prompt configuration offers, .increaseLatency⟩ ∈ events ∧
    configuration.requiredLatency = some proposal.requiredLatency ∧
    configuration.maximumLatency = some (before.maximumLatency config.defaultMaximumLatency)
  withinLimit_iff : after.latency ≤ after.maximumLatency config.defaultMaximumLatency ↔
    proposal.requiredLatency ≤ before.maximumLatency config.defaultMaximumLatency

/-- **Raised latencies.** With the standard wording, a user who keeps to the offers raises a latency
only for a subscription that is the whole batch, and to what the bandwidth manager requires. It is
within the limit of the subscription exactly if the bandwidth manager requires no more. -/
theorem raisedAsRequired_of_runs {config : DeskConfig} {user : UserId} {operation : Operation}
    {events : List Event} {result : Except ServiceFault Outcome} {place : Nat}
    {before after : Subscription}
    (hruns : Dialogue.Runs (operation.run config standardWording user) events result)
    (hoffered : ∀ event ∈ events, event.answersOffer = true)
    (hbefore : operation.batch[place]? = some before)
    (hafter : EndsWith events result place after) (hraised : before.latency < after.latency) :
    ∃ proposal, RaisedAsRequired config operation.batch events proposal before after := by
  have hcourse : operation.Course config standardWording user events result :=
    Operation.course_of_runs hruns
  -- Where the latencies are those that were submitted, the place has no higher one.
  have hunequal {batch : List Subscription} (hyields : Yields events result batch) :
      batch.map Subscription.latency ≠ operation.batch.map Subscription.latency := by
    intro hequal
    have hplaces := congrArg (·[place]?) hequal
    simp only [List.getElem?_map, hyields.getElem?_eq hafter, hbefore, Option.map_some,
      Option.some.injEq] at hplaces
    rw [hplaces] at hraised
    exact absurd hraised (UInt32.lt_irrefl _)
  rcases hcourse.yields with ⟨batch, hlatencies, hyields⟩ | ⟨plan, hagreed, hyields⟩
  · exact absurd hlatencies (hunequal hyields)
  rcases hagreed.latencies hoffered with hlatencies |
    ⟨subscription, proposal, hsingle, hproposed, hasked, happlied⟩
  · exact absurd (hlatencies.trans map_latency_cleared) (hunequal hyields)
  have hplace := hyields.getElem?_eq hafter
  rw [happlied] at hplace
  obtain ⟨original, horiginal, rfl⟩ : ∃ original, operation.batch = [original] ∧
      { original with unscheduled := false } = subscription :=
    List.map_eq_singleton_iff.mp hsingle
  rw [horiginal] at hbefore
  obtain ⟨hfirst, rfl⟩ := List.getElem?_eq_some_iff.mp hbefore
  obtain rfl : place = 0 := Nat.lt_one_iff.mp hfirst
  obtain rfl := Option.some.inj hplace
  rw [hsingle] at hproposed hasked
  exact ⟨proposal, horiginal, hproposed, rfl, ⟨_, _, hasked, rfl, rfl⟩, Iff.rfl⟩

def cyclicWinds : Subscription :=
  { Subscription.sample "winds" with
    times := .recurring (.ofList [0, 6, 12, 18]) (.ofList [0, 3, 6]) }

def lateUpdate : Operation := .update cyclicWinds

/-- The bandwidth manager requires ten hours, and six lie between two cycles. -/
def lateUpdateRun : List Event × Except ServiceFault Outcome × Rehearsal :=
  (lateUpdate.run .standard standardWording ⟨"user"⟩).converse Rehearsal.respond
    (.scripted [cyclicWinds]
      { Script.empty with
        proposals := [⟨.ofList [⟨"winds"⟩], 600, 0⟩]
        decisions := [.increaseLatency] })

theorem raisedAsRequired_lateUpdate :
    Dialogue.Runs (lateUpdate.run .standard standardWording ⟨"user"⟩) lateUpdateRun.1
        lateUpdateRun.2.1 ∧
      (∀ event ∈ lateUpdateRun.1, event.answersOffer = true) ∧
      lateUpdate.batch[0]? = some cyclicWinds ∧
      EndsWith lateUpdateRun.1 lateUpdateRun.2.1 0 { cyclicWinds with latency := 600 } ∧
      cyclicWinds.latency < 600 ∧
      ∃ proposal, RaisedAsRequired .standard lateUpdate.batch lateUpdateRun.1 proposal cyclicWinds
        { cyclicWinds with latency := 600 } := by
  have hruns : Dialogue.Runs (lateUpdate.run .standard standardWording ⟨"user"⟩) lateUpdateRun.1
      lateUpdateRun.2.1 := Dialogue.runs_converse ..
  have hoffered : ∀ event ∈ lateUpdateRun.1, event.answersOffer = true := by decide +kernel
  have hafter : EndsWith lateUpdateRun.1 lateUpdateRun.2.1 0 { cyclicWinds with latency := 600 } :=
    .inl (by decide +kernel)
  exact ⟨hruns, hoffered, rfl, hafter, by decide,
    raisedAsRequired_of_runs hruns hoffered rfl hafter (by decide)⟩

/-- A user who keeps to the offers raises a latency above its limit. -/
theorem not_withinLimits_lateUpdate :
    Dialogue.Runs (lateUpdate.run .standard standardWording ⟨"user"⟩) lateUpdateRun.1
        lateUpdateRun.2.1 ∧
      (∀ event ∈ lateUpdateRun.1, event.answersOffer = true) ∧
      lateUpdateRun.2.1.toOption.map (fun outcome => outcome.subscriptions.map fun stored =>
        (stored.latency, stored.maximumLatency DeskConfig.standard.defaultMaximumLatency)) =
          some [(600, 360)] ∧
      ¬WithinLimits .standard lateUpdate.batch lateUpdateRun.1 lateUpdateRun.2.1 := by
  refine ⟨Dialogue.runs_converse .., by decide +kernel, by decide +kernel, fun hwithin => ?_⟩
  have hafter : EndsWith lateUpdateRun.1 lateUpdateRun.2.1 0 { cyclicWinds with latency := 600 } :=
    .inl (by decide +kernel)
  exact absurd (hwithin 0 cyclicWinds { cyclicWinds with latency := 600 } rfl hafter (by decide))
    (by decide +kernel)

end SubscriptionDesk

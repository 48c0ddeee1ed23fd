import Mathlib.Data.List.Forall2
import SubscriptionDesk.Proofs.ChangeCourse

/-!
# What a decision does to a batch

A plan is drawn up place by place and carried out by name. Where the same is to be done to the whole
batch this makes no difference: each subscription is reached under its own name, and what reaches it
twice does no more than what reaches it once. A higher latency is different. It is meant for the
first subscription alone, and it reaches all that are called like the first. Those get the latency
of the first even if they had a higher one, and are turned on.
-/

namespace SubscriptionDesk

def Subscription.raised (subscription : Subscription) (latency : UInt32) : Subscription :=
  { subscription with latency := latency, activity := .on }

/-- What a decision that forces a change does to each subscription of the batch. -/
def Decision.force? : Decision → Option (Subscription → Subscription)
  | .forceApplyUnscheduled => some fun subscription => { subscription with unscheduled := true }
  | .forceApplyDeactivated => some fun subscription =>
      { subscription with unscheduled := true, activity := .off }
  | _ => none

namespace Plan

variable {plan : Plan} {batch : List Subscription} {subscription : Subscription}
  {warnings : List String}

theorem revise_append {first second : List Change} :
    (Plan.mk (first ++ second) warnings).revise subscription =
      (Plan.mk second warnings).revise ((Plan.mk first warnings).revise subscription) :=
  List.foldl_append

theorem revise_of_forall_ne (hother : ∀ change ∈ plan.changes, subscription.name ≠ change.name) :
    plan.revise subscription = subscription := by
  obtain ⟨changes, warnings⟩ := plan
  induction changes with
  | nil => rfl
  | cons change rest ih =>
      obtain ⟨hhead, hrest⟩ := List.forall_mem_cons.mp hother
      have hkept : change.applyTo subscription = subscription := if_neg hhead
      calc (Plan.mk (change :: rest) warnings).revise subscription
          = (Plan.mk rest warnings).revise (change.applyTo subscription) := rfl
        _ = (Plan.mk rest warnings).revise subscription := by rw [hkept]
        _ = subscription := ih hrest

section ByName

variable (changes : SubscriptionName → List Change) {effect : Subscription → Subscription}

/-- A subscription whose name comes twice is changed twice, and the second time does nothing. -/
theorem revise_flatMap (hnames : ∀ name, ∀ change ∈ changes name, change.name = name)
    (heffect : ∀ subscription,
      (Plan.mk (changes subscription.name) warnings).revise subscription = effect subscription)
    (hagain : ∀ subscription, effect (effect subscription) = effect subscription) :
    (Plan.mk (batch.flatMap fun other => changes other.name) warnings).revise subscription =
      if subscription.name ∈ batch.map Subscription.name then effect subscription
      else subscription := by
  induction batch generalizing subscription with
  | nil => rfl
  | cons head rest ih =>
      rw [List.flatMap_cons, revise_append, ih]
      by_cases hname : subscription.name = head.name
      · have hmem : subscription.name ∈ (head :: rest).map Subscription.name := by simp [hname]
        rw [← hname, heffect, if_pos hmem]
        split
        · exact hagain subscription
        · rfl
      · have hkept : (Plan.mk (changes head.name) warnings).revise subscription = subscription := by
          apply revise_of_forall_ne
          intro change hchange
          rw [hnames head.name change hchange]
          exact hname
        rw [hkept]
        simp only [List.map_cons, List.mem_cons, hname, false_or]

theorem applyTo_flatMap (hnames : ∀ name, ∀ change ∈ changes name, change.name = name)
    (heffect : ∀ subscription,
      (Plan.mk (changes subscription.name) warnings).revise subscription = effect subscription)
    (hagain : ∀ subscription, effect (effect subscription) = effect subscription) :
    (Plan.mk (batch.flatMap fun other => changes other.name) warnings).applyTo batch =
      batch.map effect := by
  rw [applyTo_eq_map]
  apply List.map_congr_left
  intro subscription hmem
  rw [revise_flatMap changes hnames heffect hagain, if_pos (List.mem_map_of_mem hmem)]

end ByName

/-! ### The plans of the decisions -/

theorem applyTo_leaveUnscheduled :
    (leaveUnscheduled batch).applyTo batch =
      batch.map fun subscription => { subscription with unscheduled := true } := by
  have hplan : leaveUnscheduled batch =
      ⟨batch.flatMap fun other => [.markedUnscheduled other.name], []⟩ :=
    congrArg (Plan.mk · []) (List.flatMap_pure_eq_map _ batch).symm
  rw [hplan]
  apply applyTo_flatMap fun name => [.markedUnscheduled name]
  · simp [Change.name]
  · exact fun subscription => if_pos rfl
  · exact fun subscription => rfl

theorem applyTo_leaveDeactivated :
    (leaveDeactivated batch).applyTo batch =
      batch.map fun subscription =>
        { subscription with unscheduled := true, activity := .off } := by
  apply applyTo_flatMap fun name => [.markedUnscheduled name, .deactivated name]
  · simp [Change.name]
  · intro subscription
    simp [revise, Change.applyTo, Change.name, Change.effect, Subscription.markUnscheduled,
      Subscription.deactivate]
  · exact fun subscription => rfl

theorem revise_raiseLatency {first : Subscription} {size : Nat} {required : UInt32} :
    (raiseLatency first size required).revise subscription =
      if subscription.name = first.name then subscription.raised required else subscription := by
  by_cases hname : subscription.name = first.name
  · rw [if_pos hname]
    simp [revise, raiseLatency, Change.applyTo, Change.name, Change.effect,
      Subscription.withLatency, Subscription.activate, Subscription.raised, hname]
  · rw [if_neg hname]
    apply revise_of_forall_ne
    simpa [raiseLatency, Change.name] using hname

end Plan

section Resolve

variable {batch : List Subscription} {proposal : Proposal}

theorem PromptConfiguration.latencyInQuestion_ofProposal {title : String} {default : UInt32} :
    (ofProposal title batch proposal default).latencyInQuestion proposal =
      proposal.requiredLatency := by
  unfold ofProposal
  split <;> rfl

theorem Resolution.ofLatency_eq_apply {first : Subscription} {rest : List Subscription}
    {required : UInt32} {plan : Plan}
    (hresolve : ofLatency (first :: rest) required = .apply plan) :
    first.latency < required ∧ plan = .raiseLatency first (first :: rest).length required := by
  unfold ofLatency at hresolve
  dsimp only at hresolve
  split at hresolve
  · contradiction
  · rename_i hrequired
    cases hresolve
    exact ⟨UInt32.not_le.mp hrequired, rfl⟩

section Latency

variable {title : String} {first : Subscription} {rest : List Subscription} {default : UInt32}

theorem Decision.resolve_increaseLatency_of_le
    (hrequired : proposal.requiredLatency ≤ first.latency) :
    increaseLatency.resolve (first :: rest) proposal
      (.ofProposal title (first :: rest) proposal default) = .abort none := by
  unfold resolve Resolution.ofLatency
  rw [PromptConfiguration.latencyInQuestion_ofProposal]
  exact if_pos hrequired

theorem Decision.resolve_increaseLatency_of_lt
    (hrequired : first.latency < proposal.requiredLatency) :
    increaseLatency.resolve (first :: rest) proposal
        (.ofProposal title (first :: rest) proposal default) =
      .apply (.raiseLatency first (first :: rest).length proposal.requiredLatency) := by
  unfold resolve Resolution.ofLatency
  rw [PromptConfiguration.latencyInQuestion_ofProposal]
  exact if_neg (UInt32.not_le.mpr hrequired)

end Latency

/-- A decision that forces a change makes a plan, whether it was offered or not. -/
theorem Decision.resolve_of_force? {decision : Decision} {force : Subscription → Subscription}
    {configuration : PromptConfiguration} (hforce : decision.force? = some force) :
    ∃ plan, decision.resolve batch proposal configuration = .apply plan ∧
      plan.applyTo batch = batch.map force := by
  cases decision with
  | cancel | increaseLatency | editSubscriptions => contradiction
  | forceApplyDeactivated =>
      cases hforce
      exact ⟨.leaveDeactivated batch, rfl, Plan.applyTo_leaveDeactivated⟩
  | forceApplyUnscheduled =>
      cases hforce
      exact ⟨.leaveUnscheduled batch, rfl, Plan.applyTo_leaveUnscheduled⟩

theorem Decision.applyTo_of_force? {decision : Decision} {force : Subscription → Subscription}
    {configuration : PromptConfiguration} {plan : Plan} (hforce : decision.force? = some force)
    (hresolve : decision.resolve batch proposal configuration = .apply plan) :
    plan.applyTo batch = batch.map force := by
  obtain ⟨forced, hforced, happlied⟩ := resolve_of_force? hforce
  rw [hresolve] at hforced
  cases hforced
  exact happlied

end Resolve

/-! ### Who gets the higher latency -/

/-- A plan that raises the latency of the first subscription of a batch to the required one. -/
structure Plan.RaisesNamesakes (plan : Plan) (first : Subscription) (rest : List Subscription)
    (required : UInt32) : Prop where
  higher : first.latency < required
  applied : plan.applyTo (first :: rest) = first.raised required ::
    rest.map fun other => if other.name = first.name then other.raised required else other
  warned : plan.warnings =
    if 1 < (first :: rest).length then
      ["latency increase chosen for a batch of " ++ toString (first :: rest).length ++
        " subscriptions; only the first is changed"]
    else []
  /-- The first is the only one that changes unless a namesake is another than it will be. -/
  onlyFirst_iff : plan.applyTo (first :: rest) = first.raised required :: rest ↔
    ∀ other ∈ rest, other.name = first.name → other.latency = required ∧ other.activity = .on
  /-- No latency gets lower unless a namesake has a higher one than is required. -/
  neverLowers_iff :
    List.Forall₂ (fun before after => before.latency ≤ after.latency) (first :: rest)
        (plan.applyTo (first :: rest)) ↔
      ∀ other ∈ rest, other.name = first.name → other.latency ≤ required

inductive Resolution.ForLatency (first : Subscription) (rest : List Subscription)
    (required : UInt32) : Resolution → Prop where
  | noIncrease : required ≤ first.latency → ForLatency first rest required (.abort none)
  | increase {plan : Plan} :
      plan.RaisesNamesakes first rest required → ForLatency first rest required (.apply plan)

section Namesakes

variable {first other : Subscription} {rest : List Subscription} {required : UInt32}

theorem Subscription.raised_eq_self_iff :
    other.raised required = other ↔ other.latency = required ∧ other.activity = .on := by
  constructor
  · intro hraised
    rw [← hraised]
    exact ⟨rfl, rfl⟩
  · rintro ⟨rfl, hon⟩
    unfold raised
    rw [← hon]

theorem Subscription.raised_namesake_eq_self_iff :
    (if other.name = first.name then other.raised required else other) = other ↔
      (other.name = first.name → other.latency = required ∧ other.activity = .on) := by
  by_cases hname : other.name = first.name
  · simp only [hname, if_true, true_imp_iff, raised_eq_self_iff]
  · simp [hname]

theorem Subscription.latency_le_raised_namesake_iff :
    other.latency ≤ (if other.name = first.name then other.raised required else other).latency ↔
      (other.name = first.name → other.latency ≤ required) := by
  by_cases hname : other.name = first.name
  · simp only [hname, if_true, true_imp_iff]
    exact Iff.rfl
  · simp [hname]

theorem Plan.applyTo_raiseLatency {size : Nat} :
    (raiseLatency first size required).applyTo (first :: rest) = first.raised required ::
      rest.map fun other => if other.name = first.name then other.raised required else other := by
  rw [applyTo_eq_map, List.map_cons, revise_raiseLatency, if_pos rfl]
  congr 1
  apply List.map_congr_left
  intro other hother
  exact revise_raiseLatency

theorem Plan.raisesNamesakes_raiseLatency (hrequired : first.latency < required) :
    (raiseLatency first (first :: rest).length required).RaisesNamesakes first rest required := by
  have happlied : (raiseLatency first (first :: rest).length required).applyTo (first :: rest) =
      first.raised required :: rest.map fun other =>
        if other.name = first.name then other.raised required else other := applyTo_raiseLatency
  constructor
  case higher => exact hrequired
  case applied => exact happlied
  case warned => rfl
  case onlyFirst_iff =>
    rw [happlied, List.cons.injEq, and_iff_right rfl]
    calc rest.map (fun other =>
            if other.name = first.name then other.raised required else other) = rest
        ↔ rest.map (fun other =>
            if other.name = first.name then other.raised required else other) = rest.map id := by
          rw [List.map_id]
      _ ↔ ∀ other ∈ rest,
            (if other.name = first.name then other.raised required else other) = other :=
          List.map_inj_left
      _ ↔ ∀ other ∈ rest, other.name = first.name →
            other.latency = required ∧ other.activity = .on :=
          forall₂_congr fun other _ => Subscription.raised_namesake_eq_self_iff
  case neverLowers_iff =>
    have hfirst : first.latency ≤ (first.raised required).latency := UInt32.le_of_lt hrequired
    rw [happlied, List.forall₂_cons, List.forall₂_map_right_iff, List.forall₂_same,
      and_iff_right hfirst]
    exact forall₂_congr fun other _ => Subscription.latency_le_raised_namesake_iff

end Namesakes

/-- **A higher latency reaches the namesakes.** The choice of a higher latency is a way out if what
is required is no increase for the first subscription. Else that subscription gets it and is turned
on, and so does each one that is called like it. -/
theorem forLatency_resolve_increaseLatency (title : String) (first : Subscription)
    (rest : List Subscription) (proposal : Proposal) (default : UInt32) :
    Resolution.ForLatency first rest proposal.requiredLatency
      (Decision.increaseLatency.resolve (first :: rest) proposal
        (.ofProposal title (first :: rest) proposal default)) := by
  by_cases hrequired : proposal.requiredLatency ≤ first.latency
  · rw [Decision.resolve_increaseLatency_of_le hrequired]
    exact .noIncrease hrequired
  · have hhigher : first.latency < proposal.requiredLatency := UInt32.not_le.mp hrequired
    rw [Decision.resolve_increaseLatency_of_lt hhigher]
    exact .increase (Plan.raisesNamesakes_raiseLatency hhigher)

def namesakes : List Subscription :=
  [.sample "winds", .sample "waves",
    { Subscription.sample "winds" with latency := 45, activity := .off }]

def halfHourProposal : Proposal := ⟨.ofList [⟨"winds"⟩], 30, 0⟩

/-- Not only the first subscription changes, and a latency gets lower. -/
theorem lowers_namesakes :
    ∃ plan, Decision.increaseLatency.resolve namesakes halfHourProposal
        (.ofProposal "Unable to Schedule" namesakes halfHourProposal minutesPerDay) =
          .apply plan ∧
      (plan.applyTo namesakes).tail ≠ namesakes.tail ∧
      namesakes.map Subscription.latency = [0, 0, 45] ∧
      (plan.applyTo namesakes).map Subscription.latency = [30, 0, 30] ∧
      (plan.applyTo namesakes).map Subscription.isActive = [true, true, true] :=
  ⟨.raiseLatency (.sample "winds") 3 30, by decide +kernel, by decide +kernel, rfl,
    by decide +kernel, by decide +kernel⟩

end SubscriptionDesk

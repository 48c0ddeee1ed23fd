import SubscriptionDesk.Proofs.DecisionPlans

/-!
# The last change of a kind decides

A plan is carried out change by change, and each change goes through the whole batch. What becomes
of one subscription does not depend on the others. Only the changes that carry its name reach it,
and each of the three settings that changes are about ends as the last of these leaves it. So a plan
can be carried out twice, and changes next to each other can change places unless they set the same
thing of the same name.
-/

namespace SubscriptionDesk

inductive Setting where
  | unscheduled
  | latency
  | activity
  deriving DecidableEq

namespace Change

def setting : Change → Setting
  | .clearedUnscheduled _ => .unscheduled
  | .latencyChanged _ _ _ => .latency
  | .activated _ => .activity
  | .markedUnscheduled _ => .unscheduled
  | .deactivated _ => .activity

def unscheduled? : Change → Option Bool
  | .clearedUnscheduled _ => some false
  | .markedUnscheduled _ => some true
  | _ => none

def latency? : Change → Option UInt32
  | .latencyChanged _ _ after => some after
  | _ => none

def activity? : Change → Option Activity
  | .activated _ => some .on
  | .deactivated _ => some .off
  | _ => none

variable {first second : Change}

theorem effect_eq (change : Change) (subscription : Subscription) :
    change.effect subscription =
      { subscription with
        unscheduled := change.unscheduled?.getD subscription.unscheduled
        latency := change.latency?.getD subscription.latency
        activity := change.activity?.getD subscription.activity } := by
  cases change <;> rfl

theorem effect_comm (hsetting : first.setting ≠ second.setting) (subscription : Subscription) :
    second.effect (first.effect subscription) = first.effect (second.effect subscription) := by
  cases first <;> cases second <;> first | rfl | exact absurd rfl hsetting

/-- Two changes get in each other's way only if they set the same thing of the same name. -/
theorem applyTo_comm (hapart : first.name ≠ second.name ∨ first.setting ≠ second.setting)
    (subscription : Subscription) :
    second.applyTo (first.applyTo subscription) = first.applyTo (second.applyTo subscription) := by
  -- each change finds the name as it was, so only the names in the plan decide
  have hstep (change other : Change) : change.applyTo (other.applyTo subscription) =
      if subscription.name = change.name then change.effect (other.applyTo subscription)
      else other.applyTo subscription := by
    rw [applyTo, other.name_applyTo]
  rw [hstep, hstep]
  unfold applyTo
  by_cases hfirst : subscription.name = first.name
  · by_cases hsecond : subscription.name = second.name
    · have hsetting := hapart.resolve_left (not_not_intro (hfirst.symm.trans hsecond))
      simp only [if_pos hfirst, if_pos hsecond]
      exact effect_comm hsetting subscription
    · simp only [if_neg hsecond]
  · simp only [if_neg hfirst]

end Change

namespace Plan

variable {plan : Plan} {batch : List Subscription} {subscription : Subscription}

def reaching (plan : Plan) (name : SubscriptionName) : List Change :=
  plan.changes.filter fun change => decide (change.name = name)

/-- What the last of the changes that carry a name sets, among those that set such a thing. -/
def last? {α : Type} (plan : Plan) (name : SubscriptionName) (set? : Change → Option α) :
    Option α :=
  ((plan.reaching name).filterMap set?).getLast?

theorem revise_eq_foldl_reaching :
    plan.revise subscription =
      (plan.reaching subscription.name).foldl (fun changed change => change.effect changed)
        subscription := by
  obtain ⟨changes, warnings⟩ := plan
  induction changes generalizing subscription with
  | nil => rfl
  | cons change rest ih =>
      have hrest : (Plan.mk (change :: rest) warnings).revise subscription =
          (Plan.mk rest warnings).revise (change.applyTo subscription) := rfl
      rw [hrest, ih, change.name_applyTo]
      unfold Change.applyTo reaching
      by_cases hname : change.name = subscription.name
      · rw [if_pos hname.symm, List.filter_cons_of_pos (by simpa using hname), List.foldl_cons]
      · rw [if_neg (Ne.symm hname), List.filter_cons_of_neg (by simpa using hname)]

/-- A setting is the one that was set last, whichever setting it is. -/
theorem setting_foldl_effect {α : Type} {get : Subscription → α} {set? : Change → Option α}
    (heffect : ∀ change subscription,
      get (change.effect subscription) = (set? change).getD (get subscription))
    (changes : List Change) (subscription : Subscription) :
    get (changes.foldl (fun changed change => change.effect changed) subscription) =
      ((changes.filterMap set?).getLast?).getD (get subscription) := by
  induction changes generalizing subscription with
  | nil => rfl
  | cons change rest ih =>
      rw [List.foldl_cons, ih, heffect]
      cases hset : set? change with
      | none => rw [List.filterMap_cons_none hset, Option.getD_none]
      | some value =>
          rw [List.filterMap_cons_some hset, List.getLast?_cons, Option.getD_some, Option.getD_some]

theorem setting_revise {α : Type} {get : Subscription → α} {set? : Change → Option α}
    (heffect : ∀ change subscription,
      get (change.effect subscription) = (set? change).getD (get subscription)) :
    get (plan.revise subscription) =
      (plan.last? subscription.name set?).getD (get subscription) := by
  rw [revise_eq_foldl_reaching]
  exact setting_foldl_effect heffect _ subscription

def lastSet (plan : Plan) (subscription : Subscription) : Subscription :=
  { subscription with
    unscheduled :=
      (plan.last? subscription.name Change.unscheduled?).getD subscription.unscheduled
    latency := (plan.last? subscription.name Change.latency?).getD subscription.latency
    activity := (plan.last? subscription.name Change.activity?).getD subscription.activity }

theorem revise_eq_lastSet : plan.revise subscription = plan.lastSet subscription := by
  have hrequest : (plan.revise subscription).request = subscription.request := request_revise
  have hunscheduled : (plan.revise subscription).unscheduled =
      (plan.lastSet subscription).unscheduled :=
    setting_revise fun change subscription => congrArg _ (change.effect_eq subscription)
  have hlatency : (plan.revise subscription).latency = (plan.lastSet subscription).latency :=
    setting_revise fun change subscription => congrArg _ (change.effect_eq subscription)
  have hactivity : (plan.revise subscription).activity = (plan.lastSet subscription).activity :=
    setting_revise fun change subscription => congrArg _ (change.effect_eq subscription)
  have hsplit : ∀ first second : Subscription, first.request = second.request →
      first.unscheduled = second.unscheduled → first.latency = second.latency →
      first.activity = second.activity → first = second := by
    rintro ⟨⟩ ⟨⟩ hrequest rfl rfl rfl
    simpa [Subscription.request] using hrequest
  exact hsplit _ _ hrequest hunscheduled hlatency hactivity

theorem lastSet_lastSet : plan.lastSet (plan.lastSet subscription) = plan.lastSet subscription := by
  have hagain : ∀ {α : Type} (last : Option α) (value : α),
      last.getD (last.getD value) = last.getD value := by
    intro α last value
    cases last <;> rfl
  simp only [lastSet, hagain]

theorem revise_swap {before after : List Change} {first second : Change} {warnings : List String}
    (hapart : first.name ≠ second.name ∨ first.setting ≠ second.setting) :
    (Plan.mk (before ++ first :: second :: after) warnings).revise subscription =
      (Plan.mk (before ++ second :: first :: after) warnings).revise subscription := by
  rw [revise_append, revise_append]
  exact congrArg (Plan.mk after warnings).revise (Change.applyTo_comm hapart _)

structure LastChangeDecides (plan : Plan) (batch : List Subscription) : Prop where
  /-- Each subscription goes through the changes that carry its name, whatever the others are. -/
  pointwise : plan.applyTo batch = batch.map fun subscription =>
    (plan.reaching subscription.name).foldl (fun changed change => change.effect changed)
      subscription
  length : (plan.applyTo batch).length = batch.length
  /-- Nothing but the three settings changes, and each of them is as it was set last. -/
  settings : plan.applyTo batch = batch.map plan.lastSet
  again : plan.applyTo (plan.applyTo batch) = plan.applyTo batch
  swapped : ∀ before first second after, plan.changes = before ++ first :: second :: after →
    (first.name ≠ second.name ∨ first.setting ≠ second.setting) →
    (Plan.mk (before ++ second :: first :: after) plan.warnings).applyTo batch = plan.applyTo batch

/-- **The last change of a kind decides**, for each subscription by its name. -/
theorem lastChangeDecides (plan : Plan) (batch : List Subscription) :
    plan.LastChangeDecides batch := by
  have hsettings : plan.applyTo batch = batch.map plan.lastSet := by
    rw [applyTo_eq_map]
    exact List.map_congr_left fun _ _ => revise_eq_lastSet
  constructor
  case pointwise =>
    rw [applyTo_eq_map]
    exact List.map_congr_left fun _ _ => revise_eq_foldl_reaching
  case length => rw [hsettings, List.length_map]
  case settings => exact hsettings
  case again =>
    calc plan.applyTo (plan.applyTo batch)
      _ = (batch.map plan.revise).map plan.revise := by rw [applyTo_eq_map, applyTo_eq_map]
      _ = batch.map (plan.revise ∘ plan.revise) := List.map_map
      _ = batch.map plan.revise := by
          refine List.map_congr_left fun subscription _ => ?_
          rw [Function.comp_apply, revise_eq_lastSet, revise_eq_lastSet, lastSet_lastSet]
      _ = plan.applyTo batch := applyTo_eq_map.symm
  case swapped =>
    intro before first second after hchanges hapart
    obtain ⟨changes, warnings⟩ := plan
    obtain rfl : changes = before ++ first :: second :: after := hchanges
    rw [applyTo_eq_map, applyTo_eq_map]
    exact List.map_congr_left fun _ _ => (revise_swap hapart).symm

/-- Two changes of the same thing for the same name do not change places. -/
example :
    let subscription := Subscription.sample "winds"
    (Plan.mk [.activated ⟨"winds"⟩, .deactivated ⟨"winds"⟩] []).applyTo [subscription] =
        [{ subscription with activity := .off }] ∧
      (Plan.mk [.deactivated ⟨"winds"⟩, .activated ⟨"winds"⟩] []).applyTo [subscription] =
        [subscription] := by
  decide +kernel

end Plan

end SubscriptionDesk

import SubscriptionDesk.Proofs.ChangeCourse

/-!
# What an operation leaves in the registry

Over a registry that works, an operation leaves the batch of its outcome written over what was
there, with a mark on what did not fit, or, if the change was not made, leaves all as it was. A new
subscription never takes the place of another.
-/

namespace SubscriptionDesk

/-- What becomes of the registry when the change of an operation is made to a batch. -/
def Operation.written (operation : Operation) (batch : List Subscription) (registry : Registry) :
    Registry :=
  match operation with
  | .delete _ => registry.without (batch.map Subscription.name)
  | _ => registry.putAll batch

/-- What an operation leaves in the registry, as its outcome tells. -/
def Operation.effect (operation : Operation) (outcome : Outcome) (registry : Registry) : Registry :=
  if outcome.record.actionExecuted then
    (operation.written outcome.subscriptions registry).flagged
      outcome.record.unscheduledAfterSchedule.members
  else registry

namespace Negotiation

variable {user : UserId} {mutation : Mutation} {batch submitted : List Subscription}
  {registry after : Registry} {events : List Event}

/-! ### The change -/

theorem StoresCourse.effect (hcourse : StoresCourse user batch events (.ok ()))
    (hserves : registry.Serves events after) : after = registry.putAll batch := by
  -- The registry changes with each call, so the induction is for all registries.
  induction batch generalizing registry events with
  | nil =>
      cases hcourse
      exact hserves
  | cons subscription rest ih =>
      cases hcourse with
      | stored hlater =>
          obtain ⟨hanswer, hrest⟩ := hserves
          change Registry.Serves (registry.attempted (registry.store subscription)).2 _ _ at hrest
          change .ok () = (registry.attempted (registry.store subscription)).1 at hanswer
          cases hstore : registry.store subscription with
          | error fault =>
              rw [hstore] at hanswer
              exact nomatch hanswer
          | ok stored =>
              rw [hstore] at hrest
              have hstored : stored = registry.put subscription := Registry.eq_put_of_store hstore
              rw [ih hlater hrest, hstored]
              rfl

theorem StoresCourse.not_refused {subscription : Subscription} {fault : RegistryFault}
    (hcourse : StoresCourse user [subscription] events (.error fault))
    (hfree : registry.find? subscription.name = none) (hserves : registry.Serves events after) :
    False := by
  cases hcourse with
  | refused =>
      have hanswer : .error fault = (registry.attempted (registry.store subscription)).1 :=
        hserves.1
      rw [Registry.store_of_find?_eq_none hfree] at hanswer
      exact nomatch hanswer
  | stored hlater => cases hlater

theorem MutationCourse.effect {message : String} (hlocal : mutation ≠ .given)
    (hmutation : MutationCourse user batch mutation events (.ok message))
    (hserves : registry.Serves events after) : after = registry.putAll batch := by
  rcases hmutation.of_ok with hstores | rfl | ⟨hgiven, -⟩
  · exact hstores.effect hserves
  · obtain ⟨hupdated, hafter⟩ := hserves
    have hpair : Registry.updateAll batch registry = (.ok (), after) := by
      rw [hupdated, hafter]
      rfl
    exact Registry.eq_putAll_of_updateAll hpair
  · exact absurd hgiven hlocal

/-! ### The marks -/

theorem FlagCourse.effect {name : SubscriptionName} {warnings : List String}
    (hflag : FlagCourse user name events warnings) (hserves : registry.Serves events after) :
    after = registry.flagged [name] := by
  have hupdate {stored : Subscription} (hfind : registry.find? name = some stored) :
      registry.update { stored with unscheduled := true } = .ok (registry.flagged [name]) := by
    have hname : stored.name = name := (Registry.find?_eq_some_iff.mp hfind).2
    rw [Registry.flagged_of_find?_eq_some hfind]
    exact Registry.update_of_find?_eq_some (hname ▸ hfind)
  cases hflag with
  | unreadable fault => exact nomatch hserves.1
  | missing =>
      obtain ⟨hfind, hafter⟩ := hserves
      have hnone : registry.find? name = none := (Except.ok.inj hfind).symm
      rw [Registry.flagged_of_find?_eq_none hnone]
      exact hafter
  | flagged stored =>
      obtain ⟨hfind, -, hafter⟩ := hserves
      have hflagged := hupdate (Except.ok.inj hfind).symm
      change after =
        (registry.attempted (registry.update { stored with unscheduled := true })).2 at hafter
      rw [hafter, hflagged]
      rfl
  | refused stored fault =>
      obtain ⟨hfind, hrefused, -⟩ := hserves
      have hflagged := hupdate (Except.ok.inj hfind).symm
      change .error fault =
        (registry.attempted (registry.update { stored with unscheduled := true })).1 at hrefused
      rw [hflagged] at hrefused
      exact nomatch hrefused

theorem FlagsCourse.effect {names : List SubscriptionName} {warnings : List String}
    (hflags : FlagsCourse user names events warnings) (hserves : registry.Serves events after) :
    after = registry.flagged names := by
  induction hflags generalizing registry with
  | nil => exact hserves.trans Registry.flagged_nil.symm
  | cons sent hflag hlater ih =>
      obtain ⟨between, hfirst, hrest⟩ := Registry.serves_append.mp hserves
      have hbetween := hflag.effect hfirst
      have hafter := ih hrest
      rw [hafter, hbetween, Registry.flagged_flagged]
      rfl

theorem Settlement.effect {names : NameSet .subscription}
    (hsettle : Settlement user batch events names) (hserves : registry.Serves events after) :
    after = registry.flagged names.members := by
  cases hsettle with
  | unneeded | unconfirmed =>
      have hafter : after = registry := hserves
      rw [hafter]
      exact Registry.flagged_nil.symm
  | confirmed names hflags => exact hflags.effect hserves

/-! ### The negotiation -/

theorem ChangeCourse.effect {outcome : Outcome} (hlocal : mutation ≠ .given)
    (hchange : ChangeCourse user mutation submitted events (.ok outcome))
    (hserves : registry.Serves events after) :
    after =
      if outcome.record.actionExecuted then
        (registry.putAll outcome.subscriptions).flagged
          outcome.record.unscheduledAfterSchedule.members
      else registry := by
  cases hchange with
  | unmade huntouched hstanding =>
      have hunmade : outcome.record.actionExecuted = false := congrArg Prod.fst hstanding
      rw [hunmade]
      exact (Registry.serves_iff_of_untouched huntouched).mp hserves
  | made huntouched hnames hmutation hsettle hstanding =>
      have hmade : outcome.record.actionExecuted = true := congrArg Prod.fst hstanding
      have hunscheduled := congrArg Prod.snd hstanding
      rw [Registry.serves_untouched_append huntouched] at hserves
      obtain ⟨written, hwritten, hsettled⟩ := Registry.serves_append.mp hserves
      have hput := hmutation.effect hlocal hwritten
      have hafter := hsettle.effect hsettled
      rw [if_pos hmade, hafter, hput]
      exact congrArg (fun names : NameSet .subscription =>
        (Registry.putAll _ outcome.subscriptions).flagged names.members) hunscheduled.symm

theorem ChangeCourse.not_refused {subscription : Subscription} {fault : ServiceFault}
    (hnew : mutation = .create ∨ mutation = .createQuery)
    (hchange : ChangeCourse user mutation [subscription] events (.error fault))
    (hfree : registry.find? subscription.name = none) (hserves : registry.Serves events after) :
    False := by
  cases hchange with
  | @refused before change batch cause reset huntouched hnames hmutation =>
      rw [Registry.serves_untouched_append huntouched] at hserves
      obtain ⟨written, hwritten, -⟩ := Registry.serves_append.mp hserves
      obtain ⟨stored, rest, rfl, hname, hrest⟩ := List.map_eq_cons_iff.mp hnames
      obtain rfl : rest = [] := List.map_eq_nil_iff.mp hrest
      rcases hmutation.of_error with ⟨-, hstores⟩ | ⟨hchanged, -⟩ | ⟨hgiven, -⟩
      · exact hstores.not_refused (hname ▸ hfree) hwritten
      · rcases hnew with rfl | rfl <;> simp at hchanged
      · rcases hnew with rfl | rfl <;> simp at hgiven

end Negotiation

/-! ### The operation -/

theorem Desk.turnedDown_of_turnDownInvalid? {batch : List Subscription} {outcome : Outcome}
    (hinvalid : Desk.turnDownInvalid? batch = some outcome) :
    ∃ message, outcome = .turnedDown batch message := by
  obtain ⟨subscription, -, hoff⟩ := List.exists_of_findSome?_eq_some hinvalid
  split at hoff
  · contradiction
  · exact ⟨_, (Option.some.inj hoff).symm⟩

namespace Operation

open Negotiation

variable {config : DeskConfig} {wording : Wording} {user : UserId} {operation : Operation}
  {events : List Event} {negotiated result : Except ServiceFault Outcome} {outcome : Outcome}
  {registry after : Registry} {name : SubscriptionName}

theorem turnedDown_of_invalid? (hinvalid : operation.invalid? = some outcome) :
    ∃ batch message, outcome = .turnedDown batch message := by
  cases operation with
  | deactivate | delete | perform => contradiction
  | _ => exact ⟨_, Desk.turnedDown_of_turnDownInvalid? hinvalid⟩

theorem batch_of_newName? {mutation : Mutation} (hname : operation.newName? = some name)
    (hmutation : operation.mutation? = some mutation) :
    ∃ subscription, operation.batch = [subscription] ∧ subscription.name = name ∧
      (mutation = .create ∨ mutation = .createQuery) := by
  cases operation with
  | store subscription =>
      exact ⟨subscription, rfl, Option.some.inj hname, .inl (Option.some.inj hmutation).symm⟩
  | storeAdhoc subscription =>
      exact ⟨subscription.asAdhoc, rfl, Option.some.inj hname,
        .inr (Option.some.inj hmutation).symm⟩
  | _ => contradiction

theorem written_eq_putAll {mutation : Mutation} {batch : List Subscription}
    (hmutation : operation.mutation? = some mutation) :
    operation.written batch registry = registry.putAll batch := by
  cases operation with
  | delete => contradiction
  | _ => rfl

theorem effect_of_unmade (hunmade : outcome.record.actionExecuted = false) :
    operation.effect outcome registry = registry := by
  simp [effect, hunmade]

theorem serves_lookup (hserves : registry.Serves operation.lookup after) :
    after = registry ∧ ∀ name, operation.newName? = some name → registry.find? name = none := by
  unfold lookup at hserves
  cases hname : operation.newName? with
  | none =>
      rw [hname] at hserves
      exact ⟨hserves, fun name hsome => nomatch hsome⟩
  | some free =>
      rw [hname] at hserves
      obtain ⟨hfind, hafter⟩ := hserves
      refine ⟨hafter, fun name hsome => ?_⟩
      rw [← Option.some.inj hsome]
      exact (Except.ok.inj hfind).symm

theorem Course.effect (hlocal : ∀ batch, operation ≠ .perform batch)
    (hcourse : operation.Course config wording user events (.ok outcome))
    (hserves : registry.Serves events after) : after = operation.effect outcome registry := by
  cases hcourse with
  | invalid hinvalid =>
      obtain ⟨batch, message, rfl⟩ := turnedDown_of_invalid? hinvalid
      rw [effect_of_unmade rfl]
      exact hserves
  | taken found hvalid hname =>
      rw [effect_of_unmade rfl]
      exact hserves.2
  | unknown fault => exact nomatch hserves.1
  | @negotiated operation mutation negotiation tail negotiated _ hvalid hmutation hnegotiation
      hfollow =>
      obtain ⟨before, rfl, hrecord, hbatch⟩ := hfollow.outcome_eq
      obtain ⟨start, hlookup, hrest⟩ := Registry.serves_append.mp hserves
      obtain ⟨settled, hnegotiated, htail⟩ := Registry.serves_append.mp hrest
      obtain ⟨rfl, -⟩ := serves_lookup hlookup
      rw [Registry.serves_iff_of_untouched hfollow.untouched] at htail
      subst htail
      have hgiven : mutation ≠ .given := by
        rintro rfl
        cases operation with
        | perform batch => exact hlocal batch rfl
        | _ => simp [mutation?] at hmutation
      unfold Operation.effect
      rw [hrecord, hbatch, written_eq_putAll hmutation]
      exact hnegotiation.changeCourse.effect hgiven hnegotiated
  | nothing =>
      rw [effect_of_unmade rfl]
      exact hserves
  | @deactivated batch told hsome htold =>
      obtain ⟨hupdated, hafter⟩ := hserves
      rw [Registry.serves_iff_of_untouched (untouched_of_notices htold)] at hafter
      have hpair : Registry.updateAll (batch.map Subscription.deactivate) registry =
          (.ok (), after) := by
        rw [hupdated, hafter]
        rfl
      rw [Registry.eq_putAll_of_updateAll hpair]
      exact Registry.flagged_nil.symm
  | @deleted batch told hsome htold =>
      obtain ⟨-, hafter⟩ := hserves
      rw [Registry.serves_iff_of_untouched (untouched_of_notices htold)] at hafter
      have hdeleted : after = registry.delete (batch.map Subscription.markDeleted) := hafter
      rw [hdeleted, Registry.delete_eq_without]
      exact Registry.flagged_nil.symm

/-- A new subscription is stored under a name that is free, or nothing is stored. -/
theorem Course.free_of_new (hname : operation.newName? = some name)
    (hcourse : operation.Course config wording user events result)
    (hserves : registry.Serves events after) :
    ∃ outcome, result = .ok outcome ∧ (outcome.record.actionExecuted = true →
      outcome.subscriptions.map Subscription.name = [name] ∧ registry.find? name = none) := by
  cases hcourse with
  | @invalid _ outcome hinvalid =>
      obtain ⟨batch, message, rfl⟩ := turnedDown_of_invalid? hinvalid
      exact ⟨_, rfl, fun hmade => nomatch hmade⟩
  | taken found hvalid => exact ⟨_, rfl, fun hmade => nomatch hmade⟩
  | unknown fault => exact nomatch hserves.1
  | @negotiated operation mutation negotiation tail negotiated _ hvalid hmutation hnegotiation
      hfollow =>
      obtain ⟨start, hlookup, hrest⟩ := Registry.serves_append.mp hserves
      obtain ⟨settled, hnegotiated, -⟩ := Registry.serves_append.mp hrest
      obtain ⟨rfl, hfree⟩ := serves_lookup hlookup
      have hstart := hfree name hname
      obtain ⟨subscription, hbatch, rfl, hnew⟩ := batch_of_newName? hname hmutation
      rw [hbatch] at hnegotiation
      rcases result with fault | outcome
      · obtain rfl := hfollow.error_eq
        exact (hnegotiation.changeCourse.not_refused hnew hstart hnegotiated).elim
      · refine ⟨outcome, rfl, fun hmade => ⟨?_, hstart⟩⟩
        obtain ⟨before, rfl, hrecord, hsubscriptions⟩ := hfollow.outcome_eq
        rw [hrecord] at hmade
        rw [hsubscriptions]
        cases hnegotiation.changeCourse with
        | unmade huntouched hstanding =>
            have hunmade : before.record.actionExecuted = false := congrArg Prod.fst hstanding
            rw [hunmade] at hmade
            contradiction
        | made huntouched hnames => exact hnames
  | nothing hmutation => cases operation <;> contradiction
  | deactivated | notDeactivated | deleted | notDeleted => contradiction

/-- **What an operation leaves in the registry.** If the operation ends well, the registry holds
what its outcome tells and nothing else has changed. An operation on a new subscription always ends
well, and whatever was stored before it stays, but for the mark of what does not fit. -/
theorem registry_effect (hlocal : ∀ batch, operation ≠ .perform batch)
    (hruns : Dialogue.Runs (operation.run config wording user) events result)
    (hserves : registry.Serves events after) :
    (∀ outcome, result = .ok outcome → after = operation.effect outcome registry) ∧
      (operation.newName? ≠ none → (∃ outcome, result = .ok outcome) ∧
        ∀ name stored, registry.find? name = some stored →
          after.find? name = some stored ∨
            after.find? name = some { stored with unscheduled := true }) := by
  have hcourse := course_of_runs hruns
  have heffect (outcome : Outcome) (hok : result = .ok outcome) :
      after = operation.effect outcome registry := by
    subst hok
    exact hcourse.effect hlocal hserves
  refine ⟨heffect, fun hnew => ?_⟩
  obtain ⟨fresh, hfresh⟩ := Option.ne_none_iff_exists'.mp hnew
  obtain ⟨outcome, hok, hmade⟩ := hcourse.free_of_new hfresh hserves
  refine ⟨⟨outcome, hok⟩, fun name stored hstored => ?_⟩
  rw [heffect outcome hok]
  cases hexecuted : outcome.record.actionExecuted with
  | false =>
      rw [effect_of_unmade hexecuted]
      exact .inl hstored
  | true =>
      obtain ⟨hnames, hfree⟩ := hmade hexecuted
      have hother : name ∉ outcome.subscriptions.map Subscription.name := by
        rw [hnames, List.mem_singleton]
        rintro rfl
        rw [hfree] at hstored
        contradiction
      have hwritten :
          (operation.written outcome.subscriptions registry).find? name = some stored := by
        cases operation with
        | store | storeAdhoc => exact (Registry.find?_putAll_of_notMem hother).trans hstored
        | _ => contradiction
      unfold effect
      rw [if_pos hexecuted, Registry.find?_flagged, hwritten]
      by_cases hflag : name ∈ outcome.record.unscheduledAfterSchedule.members
      · exact .inr (by simp [hflag])
      · exact .inl (by simp [hflag])

end Operation

/-- A name comes twice in the batch, and one that the schedule leaves off is not stored. -/
def crowdedUpdate : Operation :=
  .updateAll [.sample "winds", { Subscription.sample "winds" with latency := 7 }]

def crowdedStore : Registry := .ofList [.sample "winds", .sample "waves", .sample "rain"]

def crowdedUpdateRun : List Event × Except ServiceFault Outcome × Registry × Rehearsal :=
  (crowdedUpdate.run .standard standardWording ⟨"user"⟩).converse (Registry.among Rehearsal.respond)
    (crowdedStore, .scripted [] (.crowded .forceApplyUnscheduled ["waves", "winds", "snow"]))

theorem registry_effect_crowdedUpdate :
    (∀ batch, crowdedUpdate ≠ .perform batch) ∧
      Dialogue.Runs (crowdedUpdate.run .standard standardWording ⟨"user"⟩) crowdedUpdateRun.1
        crowdedUpdateRun.2.1 ∧
      crowdedStore.Serves crowdedUpdateRun.1 crowdedUpdateRun.2.2.1 ∧
      (∀ outcome, crowdedUpdateRun.2.1 = .ok outcome →
        crowdedUpdateRun.2.2.1 = crowdedUpdate.effect outcome crowdedStore) ∧
      crowdedUpdateRun.2.2.1.records.map
          (fun record => (record.name.text, record.latency, record.unscheduled)) =
        [("rain", 0, false), ("waves", 0, true), ("winds", 7, true)] :=
  ⟨by simp [crowdedUpdate], Dialogue.runs_converse .., Registry.serves_converse ..,
    (Operation.registry_effect (by simp [crowdedUpdate]) (Dialogue.runs_converse ..)
      (Registry.serves_converse ..)).1,
    by decide +kernel⟩

end SubscriptionDesk

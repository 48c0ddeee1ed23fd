import SubscriptionDesk.Proofs.RefusedBatch

/-!
# Which records of a registry are valid

The fields of a batch are checked before it is stored or changed, and a negotiation changes no field
that is checked. What is turned off is written unchecked. So in the course of many operations a
record of a registry can become invalid in one way only: it was handed in to be turned off.
-/

namespace SubscriptionDesk

/-! ### Validity and requests -/

theorem Subscription.check_request (subscription : Subscription) :
    subscription.request.check = subscription.check := rfl

theorem Subscription.check_eq_of_request_eq {first second : Subscription}
    (hrequest : first.request = second.request) : first.check = second.check := by
  rw [← first.check_request, hrequest, second.check_request]

theorem Desk.turnDownInvalid?_eq_none_iff {batch : List Subscription} :
    Desk.turnDownInvalid? batch = none ↔ ∀ subscription ∈ batch, subscription.check = .ok () := by
  unfold turnDownInvalid?
  rw [List.findSome?_eq_none_iff]
  refine forall₂_congr fun subscription _ => ?_
  rcases subscription.check with fault | ⟨⟩ <;> simp

/-- Whether an operation looks at the fields of its batch. -/
def Operation.validates : Operation → Bool
  | .deactivate _ => false
  | .delete _ => false
  | .perform _ => false
  | _ => true

theorem Operation.invalid?_eq_none_iff {operation : Operation} :
    operation.invalid? = none ↔ (operation.validates = true →
      ∀ subscription ∈ operation.batch, subscription.check = .ok ()) := by
  have hactivate (subscription : Subscription) :
      ({ subscription with activity := .on } : Subscription).check = subscription.check := rfl
  cases operation with
  | deactivate | delete | perform => simp [invalid?, validates]
  | activate => simp [invalid?, validates, batch, Desk.turnDownInvalid?_eq_none_iff, hactivate]
  | _ => simp [invalid?, validates, batch, Desk.turnDownInvalid?_eq_none_iff]

/-! ### Where the records of a registry come from -/

namespace Registry

variable {registry : Registry} {record request : Subscription} {batch : List Subscription}
  {names : List SubscriptionName}

theorem mem_or_mem_of_putAll (hrecord : record ∈ (registry.putAll batch).records) :
    record ∈ registry.records ∨ record ∈ batch := by
  have hfind : (registry.putAll batch).find? record.name = some record :=
    find?_eq_some_iff.mpr ⟨hrecord, rfl⟩
  rw [find?_putAll, Option.or_eq_some_iff] at hfind
  rcases hfind with hwritten | ⟨-, hstored⟩
  · exact .inr (List.mem_reverse.mp (List.mem_of_find?_eq_some hwritten))
  · exact .inl (find?_eq_some_iff.mp hstored).1

theorem requests_putAll (hrequest : request ∈ requests (registry.putAll batch).records) :
    request ∈ requests registry.records ∨ request ∈ requests batch := by
  obtain ⟨record, hrecord, rfl⟩ := List.mem_map.mp hrequest
  rcases mem_or_mem_of_putAll hrecord with hstored | hwritten
  · exact .inl (List.mem_map_of_mem hstored)
  · exact .inr (List.mem_map_of_mem hwritten)

theorem requests_flagged :
    requests (registry.flagged names).records = requests registry.records := by
  refine requests_map fun record => ?_
  split <;> rfl

theorem requests_without (hrequest : request ∈ requests (registry.without names).records) :
    request ∈ requests registry.records := by
  obtain ⟨record, hrecord, rfl⟩ := List.mem_map.mp hrequest
  exact List.mem_map_of_mem (List.mem_filter.mp hrecord).1

theorem CutShort.requests_subset {after : Registry} {fault : RegistryFault}
    (hcut : registry.CutShort batch fault after)
    (hrequest : request ∈ requests after.records) :
    request ∈ requests registry.records ∨ request ∈ requests batch := by
  cases hcut with
  | @missing written rest absent =>
      rcases requests_putAll hrequest with hstored | hwritten
      · exact .inl hstored
      · refine .inr ?_
        unfold requests
        rw [List.map_append]
        exact List.mem_append_left _ hwritten

end Registry

namespace Operation

open Negotiation

variable {config : DeskConfig} {wording : Wording} {user : UserId} {operation : Operation}
  {events : List Event} {result : Except ServiceFault Outcome} {outcome : Outcome}
  {registry after : Registry} {record request : Subscription}

theorem Course.valid_and_requests_of_made
    (hcourse : operation.Course config wording user events (.ok outcome))
    (hmade : outcome.record.actionExecuted = true) :
    operation.invalid? = none ∧ requests outcome.subscriptions = requests operation.batch := by
  cases hcourse with
  | invalid hinvalid =>
      obtain ⟨batch, message, rfl⟩ := turnedDown_of_invalid? hinvalid
      contradiction
  | taken | nothing => contradiction
  | unknown fault reset =>
      rcases reset with fault | ⟨⟩ <;> contradiction
  | negotiated hvalid _ hnegotiation hfollow =>
      obtain ⟨before, rfl, -, hsubscriptions⟩ := hfollow.outcome_eq
      rw [hsubscriptions]
      exact ⟨hvalid, hnegotiation.requests_of_ok⟩
  | deactivated | deleted => exact ⟨rfl, rfl⟩

theorem Course.valid_of_error {fault : ServiceFault}
    (hcourse : operation.Course config wording user events (.error fault)) :
    operation.invalid? = none := by
  cases hcourse with
  | negotiated hvalid => exact hvalid
  | notDeactivated | notDeleted => rfl

/-- A record comes from the registry as it was, or from a batch that has passed the checks. -/
theorem Course.requests_subset (hlocal : ∀ batch, operation ≠ .perform batch)
    (hcourse : operation.Course config wording user events result)
    (hserves : registry.Serves events after) (hrequest : request ∈ requests after.records) :
    request ∈ requests registry.records ∨
      (∀ batch, operation ≠ .delete batch) ∧ operation.invalid? = none ∧
        request ∈ requests operation.batch := by
  rcases result with fault | outcome
  · obtain ⟨batch, cause, -, hmem, hcut⟩ := hcourse.cutShort hlocal hserves
    rcases hcut.requests_subset hrequest with hstored | hwritten
    · exact .inl hstored
    · have hbatch : requests batch = requests operation.batch :=
        hcourse.keepsRequests _ hmem batch rfl
      refine .inr ⟨?_, hcourse.valid_of_error, hbatch ▸ hwritten⟩
      rintro deleted rfl
      cases hcourse with
      | negotiated _ hmutation => contradiction
      | notDeleted => simp at hmem
  have hafter : after = operation.effect outcome registry := hcourse.effect hlocal hserves
  cases hmade : outcome.record.actionExecuted with
  | false =>
      rw [hafter, effect_of_unmade hmade] at hrequest
      exact .inl hrequest
  | true =>
      obtain ⟨hvalid, hbatch⟩ := hcourse.valid_and_requests_of_made hmade
      rw [hafter] at hrequest
      unfold Operation.effect at hrequest
      rw [if_pos hmade, Registry.requests_flagged] at hrequest
      cases operation with
      | delete batch => exact .inl (Registry.requests_without hrequest)
      | _ =>
          refine (Registry.requests_putAll hrequest).imp_right fun hwritten => ?_
          exact ⟨by simp, hvalid, hbatch ▸ hwritten⟩

theorem eq_deactivate_of_validates_eq_false (hlocal : ∀ batch, operation ≠ .perform batch)
    (hkept : ∀ batch, operation ≠ .delete batch) (hunchecked : operation.validates = false) :
    ∃ batch, operation = .deactivate batch ∧ requests operation.batch = requests batch := by
  cases operation with
  | deactivate batch => exact ⟨batch, rfl, requests_map fun _ => rfl⟩
  | delete batch => exact absurd rfl (hkept batch)
  | perform batch => exact absurd rfl (hlocal batch)
  | _ => contradiction

/-- One operation leaves a record invalid only if it was so before, or is handed in to be turned
off. -/
theorem check_of_mem_of_runs (hlocal : ∀ batch, operation ≠ .perform batch)
    (hruns : Dialogue.Runs (operation.run config wording user) events result)
    (hserves : registry.Serves events after) (hrecord : record ∈ after.records) :
    record.request ∈ requests registry.records ∨ record.check = .ok () ∨
      ∃ batch, operation = .deactivate batch ∧ record.request ∈ requests batch := by
  have hcourse : operation.Course config wording user events result := course_of_runs hruns
  have hrequest : record.request ∈ requests after.records := List.mem_map_of_mem hrecord
  rcases hcourse.requests_subset hlocal hserves hrequest with hstored | ⟨hkept, hvalid, hbatch⟩
  · exact .inl hstored
  · cases hvalidates : operation.validates with
    | true =>
        obtain ⟨subscription, hsubscription, hsame⟩ := List.mem_map.mp hbatch
        have hcheck : subscription.check = .ok () :=
          invalid?_eq_none_iff.mp hvalid hvalidates subscription hsubscription
        exact .inr (.inl (Subscription.check_eq_of_request_eq hsame ▸ hcheck))
    | false =>
        obtain ⟨batch, hoff, hsame⟩ :=
          eq_deactivate_of_validates_eq_false hlocal hkept hvalidates
        exact .inr (.inr ⟨batch, hoff, hsame ▸ hbatch⟩)

end Operation

/-! ### Over a sequence of operations -/

namespace Registry

def Valid (registry : Registry) : Prop :=
  ∀ record ∈ registry.records, record.check = .ok ()

/-- What a registry comes to over a sequence of operations, for any user and whatever the other
collaborators answer. -/
inductive History : List Operation → Registry → Registry → Prop where
  | done {registry : Registry} : History [] registry registry
  | next {config : DeskConfig} {wording : Wording} {user : UserId} {operation : Operation}
      {operations : List Operation} {events : List Event} {result : Except ServiceFault Outcome}
      {before between after : Registry} :
      (∀ batch, operation ≠ .perform batch) →
      Dialogue.Runs (operation.run config wording user) events result →
      before.Serves events between →
      History operations between after →
      History (operation :: operations) before after

variable {operations : List Operation} {before after : Registry} {record : Subscription}

theorem check_of_request_mem (hvalid : before.Valid)
    (hrequest : record.request ∈ requests before.records) : record.check = .ok () := by
  obtain ⟨stored, hstored, hsame⟩ := List.mem_map.mp hrequest
  rw [← Subscription.check_eq_of_request_eq hsame]
  exact hvalid stored hstored

namespace History

theorem request_or_check_or_deactivated (hhistory : History operations before after)
    (hrecord : record ∈ after.records) :
    record.request ∈ requests before.records ∨ record.check = .ok () ∨
      ∃ batch, .deactivate batch ∈ operations ∧ record.request ∈ requests batch := by
  -- A record is traced back by its request, one operation at a time from the last one, as decisions
  -- may have changed the rest of it on the way.
  induction hhistory with
  | done => exact .inl (List.mem_map_of_mem hrecord)
  | next hlocal hruns hserves _ ih =>
      rcases ih hrecord with hbetween | hcheck | ⟨batch, hmem, hbatch⟩
      · obtain ⟨stored, hstored, hsame⟩ := List.mem_map.mp hbetween
        have hstep := Operation.check_of_mem_of_runs hlocal hruns hserves hstored
        rw [hsame, Subscription.check_eq_of_request_eq hsame] at hstep
        rcases hstep with hbefore | hcheck | ⟨batch, rfl, hbatch⟩
        · exact .inl hbefore
        · exact .inr (.inl hcheck)
        · exact .inr (.inr ⟨batch, List.mem_cons_self, hbatch⟩)
      · exact .inr (.inl hcheck)
      · exact .inr (.inr ⟨batch, List.mem_cons_of_mem _ hmem, hbatch⟩)

/-- Without a deactivation, a valid registry stays valid. -/
theorem valid_of_no_deactivation (hvalid : before.Valid)
    (hhistory : History operations before after)
    (hnone : ∀ batch, .deactivate batch ∉ operations) : after.Valid := by
  intro record hrecord
  rcases hhistory.request_or_check_or_deactivated hrecord with hbefore | hcheck | ⟨batch, hmem, -⟩
  · exact check_of_request_mem hvalid hbefore
  · exact hcheck
  · exact absurd hmem (hnone batch)

/-- **Where an invalid record comes from.** If a registry was valid, then over any sequence of
operations a record of it becomes invalid only because it was handed in to be turned off. -/
theorem check_or_deactivated (hvalid : before.Valid) (hhistory : History operations before after) :
    ∀ record ∈ after.records, record.check = .ok () ∨
      ∃ batch, .deactivate batch ∈ operations ∧
        ∃ submitted ∈ batch, submitted.request = record.request := by
  intro record hrecord
  rcases hhistory.request_or_check_or_deactivated hrecord with
    hbefore | hcheck | ⟨batch, hmem, hoff⟩
  · exact .inl (check_of_request_mem hvalid hbefore)
  · exact .inl hcheck
  · exact .inr ⟨batch, hmem, List.mem_map.mp hoff⟩

end History

/-- What a registry comes to when one operation after the other is run and no other collaborator
fails. -/
def rehearsed (operations : List Operation) (registry : Registry) : Registry :=
  operations.foldl (fun registry operation =>
    ((operation.run .standard standardWording ⟨"user"⟩).converse (among Rehearsal.respond)
      (registry, .scripted [] .empty)).2.2.1) registry

theorem history_rehearsed
    (hlocal : ∀ operation ∈ operations, ∀ batch, operation ≠ .perform batch) :
    History operations before (before.rehearsed operations) := by
  induction operations generalizing before with
  | nil => exact .done
  | cons operation rest ih =>
      obtain ⟨hhead, hrest⟩ := List.forall_mem_cons.mp hlocal
      exact .next hhead (Dialogue.runs_converse ..) (serves_converse ..) (ih hrest)

end Registry

def backwardWinds : Subscription :=
  { Subscription.sample "winds" with times := .range ⟨1000, 0⟩ }

def backwardOperations : List Operation :=
  [.store (.sample "snow"), .updateAll [backwardWinds], .deactivate [backwardWinds]]

def windsOnly : Registry := .ofList [.sample "winds"]

theorem valid_windsOnly : windsOnly.Valid := List.forall_mem_singleton.mpr rfl

theorem history_backwardOperations :
    Registry.History backwardOperations windsOnly (windsOnly.rehearsed backwardOperations) :=
  Registry.history_rehearsed (by simp [backwardOperations])

theorem check_or_deactivated_backwardOperations :
    windsOnly.Valid ∧
      Registry.History backwardOperations windsOnly (windsOnly.rehearsed backwardOperations) ∧
      ∀ record ∈ (windsOnly.rehearsed backwardOperations).records, record.check = .ok () ∨
        ∃ batch, .deactivate batch ∈ backwardOperations ∧
          ∃ submitted ∈ batch, submitted.request = record.request :=
  ⟨valid_windsOnly, history_backwardOperations,
    Registry.History.check_or_deactivated valid_windsOnly history_backwardOperations⟩

/-- A valid registry does not stay valid. -/
theorem not_valid_backwardOperations :
    windsOnly.Valid ∧
      Registry.History backwardOperations windsOnly (windsOnly.rehearsed backwardOperations) ∧
      ¬ (windsOnly.rehearsed backwardOperations).Valid := by
  refine ⟨valid_windsOnly, history_backwardOperations, fun hvalid => ?_⟩
  have hwritten : backwardWinds.deactivate ∈ (windsOnly.rehearsed backwardOperations).records := by
    decide +kernel
  exact nomatch hvalid _ hwritten

end SubscriptionDesk

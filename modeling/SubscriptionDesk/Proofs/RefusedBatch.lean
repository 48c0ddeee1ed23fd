import SubscriptionDesk.Proofs.RegistryEffect
import SubscriptionDesk.Proofs.Requests

/-!
# What a refused batch leaves behind

The registry writes a batch one record after the other and has no way back. It refuses a batch at
the first record whose name it does not hold, and what comes before that record stays written. An
operation that ends with an error has had its batch refused in this way, and leaves nothing else.
-/

namespace SubscriptionDesk

namespace Registry

variable {registry after : Registry} {record : Subscription} {batch : List Subscription}
  {name : SubscriptionName} {fault : RegistryFault}

theorem find?_put_eq_none_iff (hheld : registry.find? record.name ≠ none) :
    (registry.put record).find? name = none ↔ registry.find? name = none := by
  rw [find?_put]
  by_cases hname : record.name = name
  · rw [hname] at hheld
    simp [hname, hheld]
  · simp [hname]

/-- What a batch comes to that the registry refuses, and what the registry says. -/
inductive CutShort (registry : Registry) : List Subscription → RegistryFault → Registry → Prop where
  | missing {written rest : List Subscription} {absent : Subscription} :
      (∀ record ∈ written, registry.find? record.name ≠ none) →
      registry.find? absent.name = none →
      CutShort registry (written ++ absent :: rest)
        ⟨"subscription " ++ absent.name.text ++ " not found"⟩ (registry.putAll written)

theorem CutShort.cons (hheld : registry.find? record.name ≠ none)
    (hcut : (registry.put record).CutShort batch fault after) :
    registry.CutShort (record :: batch) fault after := by
  cases hcut with
  | @missing written rest absent hwritten habsent =>
      have hall : ∀ other ∈ record :: written, registry.find? other.name ≠ none := by
        refine List.forall_mem_cons.mpr ⟨hheld, fun other hother hnone => ?_⟩
        exact hwritten other hother ((find?_put_eq_none_iff hheld).mpr hnone)
      exact .missing hall ((find?_put_eq_none_iff hheld).mp habsent)

theorem CutShort.eq_of_length_eq_one (hlength : batch.length = 1)
    (hcut : registry.CutShort batch fault after) : after = registry := by
  cases hcut with
  | @missing written rest absent hwritten habsent =>
      have hnil : written = [] := by
        rw [List.length_append, List.length_cons] at hlength
        exact List.eq_nil_of_length_eq_zero (by omega)
      rw [hnil]
      rfl

/-- The registry refuses a batch exactly at the first record that it does not hold. -/
theorem updateAll_error_iff :
    updateAll batch registry = (.error fault, after) ↔ registry.CutShort batch fault after := by
  constructor
  · intro hupdate
    induction batch generalizing registry with
    | nil => simp [updateAll] at hupdate
    | cons head rest ih =>
        cases hfind : registry.find? head.name with
        | none =>
            simp only [updateAll, update, hfind, Prod.mk.injEq, Except.error.injEq] at hupdate
            obtain ⟨rfl, rfl⟩ := hupdate
            exact @CutShort.missing registry [] rest head (by simp) hfind
        | some stored =>
            simp only [updateAll, update, hfind] at hupdate
            exact (ih hupdate).cons (by simp [hfind])
  · intro hcut
    cases hcut with
    | @missing written rest absent hwritten habsent =>
        induction written generalizing registry with
        | nil => simp [updateAll, update, habsent, putAll]
        | cons head later ih =>
            obtain ⟨hhead, hlater⟩ := List.forall_mem_cons.mp hwritten
            obtain ⟨stored, hfind⟩ := Option.ne_none_iff_exists'.mp hhead
            have hstill : ∀ record ∈ later, (registry.put head).find? record.name ≠ none := by
              intro record hrecord hnone
              exact hlater record hrecord ((find?_put_eq_none_iff hhead).mp hnone)
            have habsent' : (registry.put head).find? absent.name = none :=
              (find?_put_eq_none_iff hhead).mpr habsent
            rw [List.cons_append]
            simp only [updateAll, update, hfind]
            exact ih hstill habsent'

end Registry

namespace Negotiation

theorem ChangeCourse.cutShort {user : UserId} {mutation : Mutation}
    {submitted : List Subscription} {events : List Event} {fault : ServiceFault}
    {registry after : Registry} (hupdates : mutation = .update ∨ mutation = .activate)
    (hchange : ChangeCourse user mutation submitted events (.error fault))
    (hserves : registry.Serves events after) :
    ∃ batch cause, fault = .registry cause ∧
      ⟨.registry (.updateAll user batch), .error cause⟩ ∈ events ∧
      registry.CutShort batch cause after := by
  cases hchange with
  | @refused before change batch cause reset huntouched hnames hrefused =>
      rw [Registry.serves_untouched_append huntouched] at hserves
      obtain ⟨written, hwritten, hafter⟩ := Registry.serves_append.mp hserves
      rcases hrefused.of_error with ⟨hnew, -⟩ | ⟨-, rfl⟩ | ⟨rfl, -⟩
      · rcases hupdates with rfl | rfl <;> simp at hnew
      · obtain ⟨hanswer, hleft⟩ := hwritten
        have hsettled : after = written := hafter
        refine ⟨batch, cause, rfl, by simp, Registry.updateAll_error_iff.mp ?_⟩
        exact Prod.ext hanswer.symm (hsettled.trans hleft).symm
      · simp at hupdates

end Negotiation

namespace Operation

open Negotiation

variable {config : DeskConfig} {wording : Wording} {user : UserId} {operation : Operation}
  {events : List Event} {fault : ServiceFault} {registry after : Registry}

theorem updates_of_newName?_eq_none {mutation : Mutation}
    (hlocal : ∀ batch, operation ≠ .perform batch) (hname : operation.newName? = none)
    (hmutation : operation.mutation? = some mutation) :
    mutation = .update ∨ mutation = .activate := by
  cases operation with
  | store | storeAdhoc => contradiction
  | update | updateAll => exact .inl (Option.some.inj hmutation).symm
  | activate => exact .inr (Option.some.inj hmutation).symm
  | deactivate | delete => contradiction
  | perform batch => exact absurd rfl (hlocal batch)

/-- An operation that is refused has handed a batch to the registry, which was cut short. -/
theorem Course.cutShort (hlocal : ∀ batch, operation ≠ .perform batch)
    (hcourse : operation.Course config wording user events (.error fault))
    (hserves : registry.Serves events after) :
    ∃ batch cause, fault = .registry cause ∧
      ⟨.registry (.updateAll user batch), .error cause⟩ ∈ events ∧
      registry.CutShort batch cause after := by
  have hname : operation.newName? = none := by
    cases hnew : operation.newName? with
    | none => rfl
    | some name =>
        obtain ⟨outcome, hok, -⟩ := hcourse.free_of_new hnew hserves
        contradiction
  cases hcourse with
  | @negotiated operation mutation negotiation tail negotiated _ hvalid hmutation hnegotiation
      hfollow =>
      obtain rfl := hfollow.error_eq
      obtain ⟨start, hlookup, hrest⟩ := Registry.serves_append.mp hserves
      obtain ⟨settled, hnegotiated, htail⟩ := Registry.serves_append.mp hrest
      obtain ⟨rfl, -⟩ := serves_lookup hlookup
      rw [Registry.serves_iff_of_untouched hfollow.untouched] at htail
      subst htail
      obtain ⟨batch, cause, rfl, hmem, hcut⟩ :=
        hnegotiation.changeCourse.cutShort (updates_of_newName?_eq_none hlocal hname hmutation)
          hnegotiated
      exact ⟨batch, cause, rfl, by simp [hmem], hcut⟩
  | notDeactivated cause hsome =>
      obtain ⟨hanswer, hafter⟩ := hserves
      refine ⟨_, cause, rfl, List.mem_singleton_self _, Registry.updateAll_error_iff.mp ?_⟩
      exact Prod.ext hanswer.symm hafter.symm
  | notDeleted cause => exact nomatch hserves.1

/-- **What a refused operation leaves in the registry.** The error names the first subscription of
the batch that is not stored, the part of the batch before it is written, and nothing else is. The
batch is the submitted one, but for what was decided. If it holds one subscription, the registry is
as it was. -/
theorem registry_of_refused (hlocal : ∀ batch, operation ≠ .perform batch)
    (hruns : Dialogue.Runs (operation.run config wording user) events (.error fault))
    (hserves : registry.Serves events after) :
    ∃ batch cause, fault = .registry cause ∧
      ⟨.registry (.updateAll user batch), .error cause⟩ ∈ events ∧
      requests batch = requests operation.batch ∧
      registry.CutShort batch cause after ∧
      (operation.batch.length = 1 → after = registry) := by
  have hcourse : operation.Course config wording user events (.error fault) :=
    course_of_runs hruns
  obtain ⟨batch, cause, rfl, hmem, hcut⟩ := hcourse.cutShort hlocal hserves
  have hrequests : requests batch = requests operation.batch :=
    hcourse.keepsRequests _ hmem batch rfl
  refine ⟨batch, cause, rfl, hmem, hrequests, hcut, fun hsingle => ?_⟩
  exact hcut.eq_of_length_eq_one ((length_eq_of_requests_eq hrequests).trans hsingle)

end Operation

/-- What comes first in the batch is stored, and what comes second is not. -/
def halfKnownUpdate : Operation :=
  .updateAll [{ Subscription.sample "winds" with latency := 7 }, .sample "snow", .sample "waves"]

def halfKnownStore : Registry := .ofList [.sample "winds", .sample "waves"]

def halfKnownUpdateRun : List Event × Except ServiceFault Outcome × Registry × Rehearsal :=
  (halfKnownUpdate.run .standard standardWording ⟨"user"⟩).converse
    (Registry.among Rehearsal.respond) (halfKnownStore, .scripted [] .empty)

def snowNotFound : ServiceFault := .registry ⟨"subscription snow not found"⟩

theorem halfKnownUpdateRun_eq_error : halfKnownUpdateRun.2.1 = .error snowNotFound := by
  rfl

theorem registry_of_refused_halfKnownUpdate :
    (∀ batch, halfKnownUpdate ≠ .perform batch) ∧
      Dialogue.Runs (halfKnownUpdate.run .standard standardWording ⟨"user"⟩) halfKnownUpdateRun.1
        (.error snowNotFound) ∧
      halfKnownStore.Serves halfKnownUpdateRun.1 halfKnownUpdateRun.2.2.1 ∧
      ∃ batch cause, snowNotFound = .registry cause ∧
        ⟨.registry (.updateAll ⟨"user"⟩ batch), .error cause⟩ ∈ halfKnownUpdateRun.1 ∧
        requests batch = requests halfKnownUpdate.batch ∧
        halfKnownStore.CutShort batch cause halfKnownUpdateRun.2.2.1 ∧
        (halfKnownUpdate.batch.length = 1 → halfKnownUpdateRun.2.2.1 = halfKnownStore) := by
  have hruns : Dialogue.Runs (halfKnownUpdate.run .standard standardWording ⟨"user"⟩)
      halfKnownUpdateRun.1 (.error snowNotFound) := by
    rw [← halfKnownUpdateRun_eq_error]
    exact Dialogue.runs_converse ..
  exact ⟨by simp [halfKnownUpdate], hruns, Registry.serves_converse ..,
    Operation.registry_of_refused (by simp [halfKnownUpdate]) hruns (Registry.serves_converse ..)⟩

/-- A refused update has changed what came first in its batch. -/
theorem registry_ne_of_refused_halfKnownUpdate :
    Dialogue.Runs (halfKnownUpdate.run .standard standardWording ⟨"user"⟩) halfKnownUpdateRun.1
        halfKnownUpdateRun.2.1 ∧
      halfKnownStore.Serves halfKnownUpdateRun.1 halfKnownUpdateRun.2.2.1 ∧
      halfKnownUpdateRun.2.1 = .error snowNotFound ∧
      halfKnownUpdateRun.2.2.1 ≠ halfKnownStore := by
  refine ⟨Dialogue.runs_converse .., Registry.serves_converse .., halfKnownUpdateRun_eq_error, ?_⟩
  intro hsame
  have hlatencies : halfKnownUpdateRun.2.2.1.records.map Subscription.latency = [0, 7] := by
    decide +kernel
  have hbefore : halfKnownStore.records.map Subscription.latency = [0, 0] := by decide +kernel
  rw [hsame, hbefore] at hlatencies
  contradiction

end SubscriptionDesk

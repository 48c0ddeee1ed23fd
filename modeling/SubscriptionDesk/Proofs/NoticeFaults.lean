import SubscriptionDesk.Proofs.RegistryLaws
import SubscriptionDesk.Proofs.Tolerance

/-!
# Whether a notice arrives makes no difference

Notices are sent and forgotten. Take two surroundings of the desk that differ in nothing but which
notices arrive. An operation goes through both in lockstep: it makes the same calls, ends in the
same way and leaves the same registry, whatever the registry is and however it behaves.
-/

namespace SubscriptionDesk

open Dialogue

def Query.IsNotice (query : Query) : Prop := ∃ notice, query = .notify notice

theorem tolerant_notices : Tolerant Query.IsNotice Eq where
  housekeeping query hnotice := .inr hnotice
  refl record := rfl
  push := by
    rintro record _ step rfl
    rfl
  executed := by
    rintro record _ rfl
    rfl
  reset := by
    rintro ⟨notice, hquery⟩
    contradiction

theorem Outcome.Matches.eq {first second : Outcome} (hsame : first.Matches Eq second) :
    first = second := by
  obtain ⟨reply, subscriptions, record⟩ := first
  obtain ⟨rfl, rfl, rfl⟩ := hsame
  rfl

theorem SameResult.eq {first second : Except ServiceFault Outcome}
    (hsame : SameResult Eq first second) : first = second := by
  cases hsame with
  | error hfault => exact congrArg Except.error hfault
  | ok houtcome => exact congrArg Except.ok houtcome.eq

section Surroundings

variable {ρ σ τ : Type} {related : σ → τ → Prop}

/-- States that hold the same registry, whatever that is, and are related otherwise. -/
def SameRegistry (related : σ → τ → Prop) (first : ρ × σ) (second : ρ × τ) : Prop :=
  first.1 = second.1 ∧ related first.2 second.2

/-- The registry in memory may be put among any others that resemble each other. -/
theorem Registry.resembles_among {free : Query → Prop} {first : Respondent σ}
    {second : Respondent τ} (hresembles : Resembles free related first second) :
    Resembles free (SameRegistry related) (among first) (among second) where
  answers := by
    rintro query ⟨registry, left⟩ ⟨_, right⟩ ⟨rfl, hrelated⟩
    cases query with
    | registry call => exact .inr rfl
    | _ => exact hresembles.answers _ hrelated
  states := by
    rintro query ⟨registry, left⟩ ⟨_, right⟩ ⟨rfl, hrelated⟩
    cases query with
    | registry call => exact ⟨rfl, hrelated⟩
    | _ => exact ⟨rfl, hresembles.states _ hrelated⟩

/-- Two ways in which an operation has gone that nobody can tell apart who hears no notices. -/
structure Indistinguishable (related : σ → τ → Prop)
    (first : List Event × Except ServiceFault Outcome × ρ × σ)
    (second : List Event × Except ServiceFault Outcome × ρ × τ) : Prop where
  /-- Notices are among the calls, and are sent whether earlier ones have arrived or not. -/
  calls : first.1.map Event.query = second.1.map Event.query
  result : first.2.1 = second.2.1
  registry : first.2.2.1 = second.2.2.1
  others : related first.2.2.2 second.2.2.2

/-- **Whether a notice arrives makes no difference.** -/
theorem Operation.indistinguishable_of_resembles {config : DeskConfig} {wording : Wording}
    {user : UserId} {operation : Operation} {first : Respondent (ρ × σ)}
    {second : Respondent (ρ × τ)} {registry : ρ} {left : σ} {right : τ}
    (hresembles : Resembles Query.IsNotice (SameRegistry related) first second)
    (hrelated : related left right) :
    Indistinguishable related
      ((operation.run config wording user).converse first (registry, left))
      ((operation.run config wording user).converse second (registry, right)) := by
  have halike : Alike Query.IsNotice (SameResult Eq) (operation.run config wording user)
      (operation.run config wording user) :=
    tolerant_notices.alike_operation operation
  have hstart : SameRegistry related (registry, left) (registry, right) := ⟨rfl, hrelated⟩
  obtain ⟨hcalls, hresult, hregistry, hothers⟩ := halike.converse hresembles hstart
  exact ⟨hcalls, SameResult.eq hresult, hregistry, hothers⟩

end Surroundings

def Rehearsal.unheard : Respondent Rehearsal
  | .notify notice, rehearsal => (.error ⟨"nobody there"⟩, (respond (.notify notice) rehearsal).2)
  | query, rehearsal => respond query rehearsal

theorem Rehearsal.resembles_unheard : Resembles Query.IsNotice Eq respond unheard where
  answers := by
    rintro query rehearsal _ rfl
    cases query with
    | notify notice => exact .inl ⟨notice, rfl⟩
    | _ => exact .inr rfl
  states := by
    rintro query rehearsal _ rfl
    cases query <;> rfl

/-- An update that is told of four times, to others who hear of it or do not. -/
def toldUpdate (others : Respondent Rehearsal) :
    List Event × Except ServiceFault Outcome × Registry × Rehearsal :=
  ((Operation.update (.sample "winds")).run .standard standardWording ⟨"user"⟩).converse
    (Registry.among others)
    (.ofList [.sample "winds"], .scripted [] (.crowded .increaseLatency ["winds", "waves"]))

def Event.isUnheard : Event → Bool
  | ⟨.notify _, .error _⟩ => true
  | _ => false

theorem indistinguishable_toldUpdate :
    Resembles Query.IsNotice (SameRegistry Eq) (Registry.among Rehearsal.respond)
        (Registry.among Rehearsal.unheard) ∧
      Indistinguishable Eq (toldUpdate Rehearsal.respond) (toldUpdate Rehearsal.unheard) ∧
      (toldUpdate Rehearsal.respond).1.countP Event.isUnheard = 0 ∧
      (toldUpdate Rehearsal.unheard).1.countP Event.isUnheard = 4 := by
  have hresembles : Resembles Query.IsNotice (SameRegistry Eq) (Registry.among Rehearsal.respond)
      (Registry.among Rehearsal.unheard) :=
    Registry.resembles_among Rehearsal.resembles_unheard
  exact ⟨hresembles, Operation.indistinguishable_of_resembles hresembles rfl, by decide +kernel,
    by decide +kernel⟩

end SubscriptionDesk

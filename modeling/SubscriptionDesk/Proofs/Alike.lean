import Mathlib.Data.List.Forall2
import SubscriptionDesk.Desk
import SubscriptionDesk.Proofs.NegotiationCourse

/-!
# Answers that make no difference

Two dialogues are alike if they make the same calls and go on alike whatever they are told, also
when they are told different things by those whose answers are free. What is alike has the same
runs, but for those answers and what comes of them.
-/

namespace SubscriptionDesk

namespace Dialogue

variable {α β γ δ σ τ : Type} {free : Query → Prop} {rel : α → β → Prop} {next : γ → δ → Prop}

inductive Alike (free : Query → Prop) (rel : α → β → Prop) : Dialogue α → Dialogue β → Prop where
  | done {first : α} {second : β} :
      rel first second → Alike free rel (.done first) (.done second)
  | ask {query : Query} {left : query.Answer → Dialogue α} {right : query.Answer → Dialogue β} :
      (∀ first second, free query ∨ first = second →
        Alike free rel (left first) (right second)) →
      Alike free rel (.ask query left) (.ask query right)

/-- Whether an event is another one, but for the answer to a call whose answers are free. -/
def SameBut (free : Query → Prop) (first second : Event) : Prop :=
  first.query = second.query ∧ (free first.query ∨ first = second)

/-- Respondents that answer alike in related states, but for calls whose answers are free. -/
structure Resembles (free : Query → Prop) (related : σ → τ → Prop) (first : Respondent σ)
    (second : Respondent τ) : Prop where
  answers : ∀ query {left right}, related left right →
    free query ∨ (first query left).1 = (second query right).1
  states : ∀ query {left right}, related left right →
    related (first query left).2 (second query right).2

namespace Alike

/-- Where one dialogue has a run, an alike one has a run with the same calls and a like result. -/
theorem runs {first : Dialogue α} {second : Dialogue β} {events others : List Event} {result : α}
    (halike : Alike free rel first second) (hruns : Runs first events result)
    (hsame : List.Forall₂ (SameBut free) events others) :
    ∃ ending, Runs second others ending ∧ rel result ending := by
  -- Induction on the dialogues: the second one follows the branches of the other answers.
  induction halike generalizing events others with
  | done hrel =>
      obtain ⟨rfl, rfl⟩ := runs_done_iff.mp hruns
      cases hsame
      exact ⟨_, .done _, hrel⟩
  | @ask query left right hnext ih =>
      obtain ⟨answer, rest, rfl, hrest⟩ := runs_ask_iff.mp hruns
      cases hsame with
      | @cons _ other _ later hhead htail =>
          obtain ⟨asked, reply⟩ := other
          obtain ⟨hquery, hfree⟩ := hhead
          obtain rfl : query = asked := hquery
          have hanswers : free query ∨ answer = reply := by
            rcases hfree with hfree | heq
            · exact .inl hfree
            · cases heq
              exact .inr rfl
          obtain ⟨ending, hending, hrel⟩ := ih answer reply hanswers hrest htail
          exact ⟨ending, .ask hending, hrel⟩

theorem converse {first : Dialogue α} {second : Dialogue β} {respond : Respondent σ}
    {reply : Respondent τ} {related : σ → τ → Prop} {left : σ} {right : τ}
    (halike : Alike free rel first second) (hresembles : Resembles free related respond reply)
    (hrelated : related left right) :
    (first.converse respond left).1.map Event.query =
        (second.converse reply right).1.map Event.query ∧
      rel (first.converse respond left).2.1 (second.converse reply right).2.1 ∧
      related (first.converse respond left).2.2 (second.converse reply right).2.2 := by
  -- Where a free answer differs, the dialogues go on in different branches that are alike too.
  induction halike generalizing left right with
  | done hrel => exact ⟨rfl, hrel, hrelated⟩
  | @ask query _ _ _ ih =>
      obtain ⟨hcalls, hresult, hstates⟩ :=
        ih _ _ (hresembles.answers query hrelated) (hresembles.states query hrelated)
      exact ⟨congrArg (query :: ·) hcalls, hresult, hstates⟩

theorem bind {first : Dialogue α} {second : Dialogue β} {f : α → Dialogue γ} {g : β → Dialogue δ}
    (halike : Alike free rel first second)
    (hnext : ∀ left right, rel left right → Alike free next (f left) (g right)) :
    Alike free next (first >>= f) (second >>= g) := by
  induction halike with
  | done hrel => exact hnext _ _ hrel
  | ask _ ih => exact .ask fun left right hanswers => ih left right hanswers

theorem call {query : Query} {f : query.Answer → Dialogue γ} {g : query.Answer → Dialogue δ}
    (hquery : ¬free query) (hnext : ∀ answer, Alike free next (f answer) (g answer)) :
    Alike free next (Dialogue.call query >>= f) (Dialogue.call query >>= g) := by
  refine .ask fun left right hanswers => ?_
  obtain rfl := hanswers.resolve_left hquery
  exact hnext left

theorem drop {query : Query} {f : Dialogue γ} {g : Dialogue δ} (hnext : Alike free next f g) :
    Alike free next (Dialogue.call query >>= fun _ => f) (Dialogue.call query >>= fun _ => g) :=
  .ask fun _ _ _ => hnext

end Alike

end Dialogue

end SubscriptionDesk

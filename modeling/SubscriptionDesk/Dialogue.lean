import SubscriptionDesk.Notice
import SubscriptionDesk.Outcome

namespace SubscriptionDesk

inductive RegistryCall where
  | store (user : UserId) (subscription : Subscription)
  | update (user : UserId) (subscription : Subscription)
  | updateAll (user : UserId) (batch : List Subscription)
  | delete (user : UserId) (batch : List Subscription)
  | find (name : SubscriptionName)
  deriving DecidableEq

@[reducible]
def RegistryCall.Answer : RegistryCall → Type
  | .store _ _ => Except RegistryFault Unit
  | .update _ _ => Except RegistryFault Unit
  | .updateAll _ _ => Except RegistryFault Unit
  | .delete _ _ => Except RegistryFault Unit
  | .find _ => Except RegistryFault (Option Subscription)

/-- A call to one of those that the desk works with. -/
inductive Query where
  | registry (call : RegistryCall)
  | checkOverlap (candidates : List Subscription)
  | propose (batch : List Subscription)
  | schedule (batch : List Subscription)
  | resetManager
  | statusSummary (subscription : Subscription)
  | estimate (subscription : Subscription)
  | notify (notice : Notice)
  | prompt (configuration : PromptConfiguration) (offers : List Offer)
  | showMessage (title message : String)
  | openManager (names : NameSet .subscription)
  | carryOut (batch : List Subscription)
  deriving DecidableEq

@[reducible]
def Query.Answer : Query → Type
  | .registry call => call.Answer
  | .checkOverlap _ => Except RegistryFault OverlapReport
  | .propose _ => Except BandwidthFault Proposal
  | .schedule _ => Except BandwidthFault (NameSet .subscription)
  | .resetManager => Except BandwidthFault Unit
  | .statusSummary _ => Except BandwidthFault StatusSummary
  | .estimate _ => Except BandwidthFault (Option Int64)
  | .notify _ => Except NoticeFault Unit
  | .prompt _ _ => Decision
  | .showMessage _ _ => Unit
  | .openManager _ => Unit
  | .carryOut _ => Except RegistryFault String

structure Event where
  query : Query
  answer : query.Answer

/-- A computation that calls on others, each call depending on the answers so far. -/
inductive Dialogue (α : Type) : Type where
  | done (result : α)
  | ask (query : Query) (next : query.Answer → Dialogue α)

namespace Dialogue

variable {α β γ σ : Type}

def bind : Dialogue α → (α → Dialogue β) → Dialogue β
  | .done result, f => f result
  | .ask query next, f => .ask query fun answer => (next answer).bind f

instance : Monad Dialogue where
  pure := .done
  bind := bind

@[simp]
theorem done_bind (result : α) (f : α → Dialogue β) : (done result >>= f) = f result := rfl

@[simp]
theorem pure_eq_done (result : α) : (pure result : Dialogue α) = done result := rfl

@[simp]
theorem ask_bind (query : Query) (next : query.Answer → Dialogue α) (f : α → Dialogue β) :
    (ask query next >>= f) = ask query fun answer => next answer >>= f := rfl

theorem bind_done (dialogue : Dialogue α) : (dialogue >>= done) = dialogue := by
  induction dialogue with
  | done => rfl
  | ask query next ih => exact congrArg (ask query) (funext ih)

theorem bind_assoc (dialogue : Dialogue α) (f : α → Dialogue β) (g : β → Dialogue γ) :
    (dialogue >>= f >>= g) = dialogue >>= fun result => f result >>= g := by
  induction dialogue with
  | done => rfl
  | ask query next ih => exact congrArg (ask query) (funext ih)

instance : LawfulMonad Dialogue :=
  LawfulMonad.mk' Dialogue bind_done (fun _ _ => rfl) bind_assoc

def call (query : Query) : Dialogue query.Answer := .ask query .done

/-- The runs of a dialogue: the calls in order with any answers, and the result. -/
inductive Runs : Dialogue α → List Event → α → Prop where
  | done (result : α) : Runs (.done result) [] result
  | ask {query : Query} {next : query.Answer → Dialogue α} {answer : query.Answer}
      {events : List Event} {result : α} :
      Runs (next answer) events result → Runs (.ask query next) (⟨query, answer⟩ :: events) result

abbrev Respondent (σ : Type) := (query : Query) → σ → query.Answer × σ

def converse (respond : Respondent σ) : Dialogue α → σ → List Event × α × σ
  | .done result, state => ([], result, state)
  | .ask query next, state =>
      let (answer, state) := respond query state
      let (events, rest) := (next answer).converse respond state
      (⟨query, answer⟩ :: events, rest)

theorem runs_converse (respond : Respondent σ) (dialogue : Dialogue α) (state : σ) :
    Runs dialogue (dialogue.converse respond state).1 (dialogue.converse respond state).2.1 := by
  induction dialogue generalizing state with
  | done result => exact .done result
  | ask query next ih => exact .ask (ih _ _)

theorem runs_bind {dialogue : Dialogue α} {f : α → Dialogue β} {events : List Event} {result : β} :
    Runs (dialogue >>= f) events result ↔
      ∃ first between second, Runs dialogue first between ∧ Runs (f between) second result ∧
        events = first ++ second := by
  constructor
  · intro hruns
    induction dialogue generalizing events with
    | done value => exact ⟨[], value, events, .done value, hruns, rfl⟩
    | ask query next ih =>
        cases hruns with
        | ask hruns =>
            obtain ⟨first, between, second, hfirst, hsecond, rfl⟩ := ih _ hruns
            exact ⟨_, between, second, .ask hfirst, hsecond, rfl⟩
  · rintro ⟨first, between, second, hfirst, hsecond, rfl⟩
    induction hfirst with
    | done => exact hsecond
    | ask _ ih => exact .ask (ih hsecond)

end Dialogue

end SubscriptionDesk

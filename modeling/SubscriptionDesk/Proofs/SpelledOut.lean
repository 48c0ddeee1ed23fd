import SubscriptionDesk.Proofs.RegistryLaws

/-!
# Writing record by record

The registry takes in the records of a batch one by one, so that others may come between them. Here
a dialogue is spelled out in this way. The change that the caller of the desk brought along is a
dialogue of its own, and is put in its place call by call. As long as nobody comes between, nothing
else becomes of it.
-/

namespace SubscriptionDesk

namespace Dialogue

variable {α β σ : Type}

def writeEach (user : UserId) : List Subscription → Dialogue (Except RegistryFault Unit)
  | [] => pure (.ok ())
  | record :: rest => do
      match ← call (.registry (.updateAll user [record])) with
      | .ok () => writeEach user rest
      | .error fault => pure (.error fault)

/-- The same calls, but all writes to records that exist are made as those of a batch are. -/
def singly : Dialogue α → Dialogue α
  | .done result => .done result
  | .ask (.registry (.update user record)) next =>
      writeEach user [record] >>= fun answer => (next answer).singly
  | .ask (.registry (.updateAll user batch)) next =>
      writeEach user batch >>= fun answer => (next answer).singly
  | .ask query next => .ask query fun answer => (next answer).singly

/-- The same calls, but batches are written record by record, and the change that the caller brought
along is made call by call. -/
def spelledOut (carry : List Subscription → Dialogue (Except RegistryFault String)) :
    Dialogue α → Dialogue α
  | .done result => .done result
  | .ask (.registry (.updateAll user batch)) next =>
      writeEach user batch >>= fun answer => (next answer).spelledOut carry
  | .ask (.carryOut batch) next =>
      (carry batch).singly >>= fun answer => (next answer).spelledOut carry
  | .ask query next => .ask query fun answer => (next answer).spelledOut carry

/-! Where nobody comes between, this makes no difference. -/

/-- Those around a desk, and one among them who makes changes by calling on the others. -/
def carrying (carry : List Subscription → Dialogue (Except RegistryFault String))
    (respond : Respondent σ) : Respondent σ
  | .carryOut batch, state => ((carry batch).converse respond state).2
  | query, state => respond query state

section Alone

variable {registry : Registry} {others : Respondent σ} {state : σ} {user : UserId}
  {batch : List Subscription}

theorem converse_bind {respond : Respondent σ} {dialogue : Dialogue α} {f : α → Dialogue β} :
    ((dialogue >>= f).converse respond state).2 =
      ((f (dialogue.converse respond state).2.1).converse respond
        (dialogue.converse respond state).2.2).2 := by
  induction dialogue generalizing state with
  | done result => rfl
  | ask query next ih => exact ih _

theorem converse_writeEach :
    ((writeEach user batch).converse (Registry.among others) (registry, state)).2 =
      ((Registry.updateAll batch registry).1, (Registry.updateAll batch registry).2, state) := by
  induction batch generalizing registry with
  | nil => rfl
  | cons record rest ih =>
      cases hupdate : registry.update record with
      | ok written =>
          have hcall : Registry.among others (.registry (.updateAll user [record]))
              (registry, state) = (.ok (), written, state) := by
            simp [Registry.among, Registry.serve, Registry.updateAll, hupdate]
          unfold writeEach
          rw [converse_bind]
          simp only [call, converse, hcall, ih, Registry.updateAll, hupdate]
      | error fault =>
          have hcall : Registry.among others (.registry (.updateAll user [record]))
              (registry, state) = (.error fault, registry, state) := by
            simp [Registry.among, Registry.serve, Registry.updateAll, hupdate]
          unfold writeEach
          rw [converse_bind]
          simp only [call, converse, hcall, Registry.updateAll, hupdate]
          rfl

theorem converse_singly {dialogue : Dialogue α} :
    (dialogue.singly.converse (Registry.among others) (registry, state)).2 =
      (dialogue.converse (Registry.among others) (registry, state)).2 := by
  induction dialogue generalizing registry state with
  | done result => rfl
  | ask query next ih =>
      cases query with
      | registry call =>
          cases call with
          | update user record =>
              unfold singly
              rw [converse_bind, converse_writeEach, Registry.updateAll_singleton]
              exact ih _
          | updateAll user batch =>
              unfold singly
              rw [converse_bind, converse_writeEach]
              exact ih _
          | _ => exact ih _
      | _ => exact ih _

theorem converse_spelledOut {dialogue : Dialogue α}
    {carry : List Subscription → Dialogue (Except RegistryFault String)} :
    ((dialogue.spelledOut carry).converse (Registry.among others) (registry, state)).2 =
      (dialogue.converse (carrying carry (Registry.among others)) (registry, state)).2 := by
  induction dialogue generalizing registry state with
  | done result => rfl
  | ask query next ih =>
      cases query with
      | registry call =>
          cases call with
          | updateAll user batch =>
              unfold spelledOut
              rw [converse_bind, converse_writeEach]
              exact ih _
          | _ => exact ih _
      | carryOut batch =>
          unfold spelledOut
          rw [converse_bind, converse_singly]
          exact ih _
      | _ => exact ih _

end Alone

end Dialogue

/-! ### The runs of it -/

/-- Whether a call puts a mark on a record, as only a negotiation does that is spelled out. -/
def Query.isMark : Query → Bool
  | .registry (.update _ _) => true
  | _ => false

def Query.isSingle : Query → Bool
  | .registry (.updateAll _ [_]) => true
  | .registry (.updateAll _ _) => false
  | _ => true

def Plain (events : List Event) : Prop :=
  ∀ event ∈ events, event.query.isMark = false ∧ event.query.isSingle = true

/-- Whether a run is another one spelled out. -/
inductive SpelledOut (carry : List Subscription → Dialogue (Except RegistryFault String)) :
    List Event → List Event → Prop where
  | nil : SpelledOut carry [] []
  | written {user : UserId} {batch : List Subscription} {answer : Except RegistryFault Unit}
      {writes events spelled : List Event} :
      Dialogue.Runs (Dialogue.writeEach user batch) writes answer →
      SpelledOut carry events spelled →
      SpelledOut carry (⟨.registry (.updateAll user batch), answer⟩ :: events) (writes ++ spelled)
  | carried {batch : List Subscription} {answer : Except RegistryFault String}
      {calls events spelled : List Event} :
      Dialogue.Runs (carry batch).singly calls answer →
      SpelledOut carry events spelled →
      SpelledOut carry (⟨.carryOut batch, answer⟩ :: events) (calls ++ spelled)
  | same {event : Event} {events spelled : List Event} :
      (∀ user batch, event.query ≠ .registry (.updateAll user batch)) →
      SpelledOut carry events spelled →
      SpelledOut carry (event :: events) (event :: spelled)

section SpelledOut

open Dialogue

variable {α : Type} {carry : List Subscription → Dialogue (Except RegistryFault String)}
  {dialogue : Dialogue α} {events spelled : List Event} {result : α}

/-- What is written record by record is never a mark. -/
theorem plain_of_writeEach {user : UserId} {batch : List Subscription} {writes : List Event}
    {answer : Except RegistryFault Unit} (hruns : Runs (writeEach user batch) writes answer) :
    Plain writes := by
  induction batch generalizing writes with
  | nil =>
      obtain ⟨rfl, -⟩ := runs_done_iff.mp hruns
      exact List.forall_mem_nil _
  | cons record rest ih =>
      obtain ⟨answer, later, rfl, hlater⟩ := runs_call_bind.mp hruns
      refine List.forall_mem_cons.mpr ⟨⟨rfl, rfl⟩, ?_⟩
      rcases answer with fault | ⟨⟩
      · obtain ⟨rfl, -⟩ := runs_done_iff.mp hlater
        exact List.forall_mem_nil _
      · exact ih hlater

theorem plain_of_singly (hruns : Runs dialogue.singly events result) : Plain events := by
  induction dialogue generalizing events with
  | done =>
      obtain ⟨rfl, -⟩ := runs_done_iff.mp hruns
      exact List.forall_mem_nil _
  | ask query next ih =>
      have hwrites {user : UserId} {batch : List Subscription}
          {next : Except RegistryFault Unit → Dialogue α}
          (ih : ∀ answer {events : List Event}, Runs (next answer).singly events result →
            Plain events)
          (hruns : Runs (writeEach user batch >>= fun answer => (next answer).singly) events
            result) : Plain events := by
        obtain ⟨writes, answer, later, hfirst, hlater, rfl⟩ := runs_bind.mp hruns
        exact List.forall_mem_append.mpr ⟨plain_of_writeEach hfirst, ih answer hlater⟩
      have hother (hmark : query.isMark = false) (hsingle : query.isSingle = true)
          (hruns : Runs (ask query fun answer => (next answer).singly) events result) :
          Plain events := by
        obtain ⟨answer, later, rfl, hlater⟩ := runs_ask_iff.mp hruns
        exact List.forall_mem_cons.mpr ⟨⟨hmark, hsingle⟩, ih answer hlater⟩
      cases query with
      | registry call =>
          cases call with
          | update | updateAll => exact hwrites ih hruns
          | _ => exact hother rfl rfl hruns
      | _ => exact hother rfl rfl hruns

theorem exists_runs_of_spelledOut (hruns : Runs (dialogue.spelledOut carry) spelled result) :
    ∃ events, Runs dialogue events result ∧ SpelledOut carry events spelled := by
  induction dialogue generalizing spelled with
  | done =>
      obtain ⟨rfl, rfl⟩ := runs_done_iff.mp hruns
      exact ⟨[], .done _, .nil⟩
  | ask query next ih =>
      have hother (hquery : ∀ user batch, query ≠ .registry (.updateAll user batch))
          (hruns : Runs (ask query fun answer => (next answer).spelledOut carry) spelled result) :
          ∃ events, Runs (ask query next) events result ∧ SpelledOut carry events spelled := by
        obtain ⟨answer, later, rfl, hlater⟩ := runs_ask_iff.mp hruns
        obtain ⟨events, hevents, hspelled⟩ := ih answer hlater
        exact ⟨_, .ask hevents, .same hquery hspelled⟩
      cases query with
      | registry call =>
          cases call with
          | updateAll user batch =>
              obtain ⟨writes, answer, later, hwrites, hlater, rfl⟩ := runs_bind.mp hruns
              obtain ⟨events, hevents, hspelled⟩ := ih answer hlater
              exact ⟨_, .ask hevents, .written hwrites hspelled⟩
          | _ => exact hother nofun hruns
      | carryOut batch =>
          obtain ⟨calls, answer, later, hcalls, hlater, rfl⟩ := runs_bind.mp hruns
          obtain ⟨events, hevents, hspelled⟩ := ih answer hlater
          exact ⟨_, .ask hevents, .carried hcalls hspelled⟩
      | _ => exact hother nofun hruns

theorem SpelledOut.isSingle (hspelled : SpelledOut carry events spelled) :
    ∀ event ∈ spelled, event.query.isSingle = true := by
  induction hspelled with
  | nil => simp
  | written hwrites _ ih =>
      refine List.forall_mem_append.mpr ⟨?_, ih⟩
      exact fun event hevent => (plain_of_writeEach hwrites event hevent).2
  | carried hcalls _ ih =>
      refine List.forall_mem_append.mpr ⟨?_, ih⟩
      exact fun event hevent => (plain_of_singly hcalls event hevent).2
  | @same event _ _ hquery _ ih =>
      refine List.forall_mem_cons.mpr ⟨?_, ih⟩
      unfold Query.isSingle
      split
      · rfl
      · exact absurd ‹_› (hquery _ _)
      · rfl

end SpelledOut

end SubscriptionDesk

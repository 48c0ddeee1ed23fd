import Mathlib.Data.List.Induction
import Mathlib.Logic.Function.Basic
import SubscriptionDesk.Desk
import SubscriptionDesk.Proofs.RegistryLaws

/-!
# Desks that share a registry

Any number of clients work at desks of their own over one registry in memory. They take turns in
any order, and in a turn a client makes one call. The registry answers the calls to it as it then
is; all others may answer anything. Each client sees a run of its own dialogue, and the registry a
run of all turns.
-/

namespace SubscriptionDesk

namespace Dialogue

variable {α : Type} {dialogue left : Dialogue α} {events rest : List Event} {result : α}

/-- The beginnings of the runs of a dialogue: the calls so far, and what is left to do. -/
inductive Begins : Dialogue α → List Event → Dialogue α → Prop where
  | here (dialogue : Dialogue α) : Begins dialogue [] dialogue
  | ask {query : Query} {next : query.Answer → Dialogue α} {answer : query.Answer}
      {events : List Event} {left : Dialogue α} :
      Begins (next answer) events left → Begins (.ask query next) (⟨query, answer⟩ :: events) left

theorem Begins.runs_append (hbegins : Begins dialogue events left) (hruns : Runs left rest result) :
    Runs dialogue (events ++ rest) result := by
  induction hbegins with
  | here => exact hruns
  | ask _ ih => exact .ask (ih hruns)

theorem Begins.runs (hbegins : Begins dialogue events (.done result)) :
    Runs dialogue events result := by
  have hruns := hbegins.runs_append (.done result)
  rwa [List.append_nil] at hruns

theorem exists_runs (dialogue : Dialogue α) : ∃ events result, Runs dialogue events result :=
  ⟨_, _, runs_converse Rehearsal.respond dialogue (.scripted [] .empty)⟩

theorem Begins.exists_runs (hbegins : Begins dialogue events left) :
    ∃ rest result, Runs dialogue (events ++ rest) result := by
  obtain ⟨rest, result, hruns⟩ := Dialogue.exists_runs left
  exact ⟨rest, result, hbegins.runs_append hruns⟩

def result? : Dialogue α → Option α
  | .done result => some result
  | .ask _ _ => none

end Dialogue

structure Client where
  config : DeskConfig
  wording : Wording
  user : UserId
  operation : Operation

def Client.run (client : Client) : Dialogue (Except ServiceFault Outcome) :=
  client.operation.run client.config client.wording client.user

structure Turn (ι : Type) where
  client : ι
  event : Event

structure Shared (ι α : Type) where
  registry : Registry
  left : ι → Dialogue α

variable {ι α σ : Type} [DecidableEq ι]

def doneBy (client : ι) (turns : List (Turn ι)) : List Event :=
  (turns.filter fun turn => decide (turn.client = client)).map Turn.event

section DoneBy

variable {client other : ι} {turn : Turn ι} {event : Event} {turns first second : List (Turn ι)}

@[simp]
theorem doneBy_nil : doneBy client ([] : List (Turn ι)) = [] := rfl

theorem doneBy_cons_self :
    doneBy client (⟨client, event⟩ :: turns) = event :: doneBy client turns := by
  simp [doneBy]

theorem doneBy_cons_of_ne (hother : other ≠ client) :
    doneBy client (⟨other, event⟩ :: turns) = doneBy client turns := by
  simp [doneBy, hother]

theorem doneBy_append :
    doneBy client (first ++ second) = doneBy client first ++ doneBy client second := by
  simp [doneBy]

theorem event_mem_doneBy (hturn : turn ∈ turns) : turn.event ∈ doneBy turn.client turns :=
  List.mem_map_of_mem (List.mem_filter.mpr ⟨hturn, by simp⟩)

theorem mem_doneBy_iff : event ∈ doneBy client turns ↔ ⟨client, event⟩ ∈ turns := by
  constructor
  · intro hevent
    obtain ⟨⟨other, event⟩, hturn, rfl⟩ := List.mem_map.mp hevent
    obtain ⟨hmem, hclient⟩ := List.mem_filter.mp hturn
    obtain rfl : other = client := by simpa using hclient
    exact hmem
  · exact event_mem_doneBy

/-- After the last call of a client the others may go on for a while. -/
theorem split_of_doneBy_eq {earlier : List Event}
    (hdone : doneBy client turns = earlier ++ [event]) :
    ∃ before between, turns = before ++ ⟨client, event⟩ :: between ∧
      doneBy client before = earlier ∧ ∀ turn ∈ between, turn.client ≠ client := by
  induction turns using List.reverseRecOn with
  | nil => simp at hdone
  | append_singleton turns turn ih =>
      obtain ⟨other, last⟩ := turn
      rw [doneBy_append] at hdone
      by_cases hother : other = client
      · subst hother
        rw [doneBy_cons_self, doneBy_nil] at hdone
        obtain ⟨hearlier, hlast⟩ := List.append_inj' hdone rfl
        obtain rfl : last = event := by simpa using hlast
        exact ⟨turns, [], rfl, hearlier, by simp⟩
      · rw [doneBy_cons_of_ne hother, doneBy_nil, List.append_nil] at hdone
        obtain ⟨before, between, rfl, hearlier, hbetween⟩ := ih hdone
        refine ⟨before, between ++ [⟨other, last⟩], by simp, hearlier, ?_⟩
        intro turn hturn
        rcases List.mem_append.mp hturn with hturn | hturn
        · exact hbetween turn hturn
        · rwa [List.mem_singleton.mp hturn]

end DoneBy

namespace Shared

/-- A client that is not done makes its next call. -/
inductive Step : Shared ι α → Turn ι → Shared ι α → Prop where
  | turn {state : Shared ι α} {client : ι} {query : Query} {next : query.Answer → Dialogue α}
      {answer : query.Answer} {after : Registry} :
      state.left client = .ask query next →
      state.registry.Serves [⟨query, answer⟩] after →
      Step state ⟨client, ⟨query, answer⟩⟩
        ⟨after, Function.update state.left client (next answer)⟩

inductive Steps : Shared ι α → List (Turn ι) → Shared ι α → Prop where
  | nil (state : Shared ι α) : Steps state [] state
  | cons {start between finish : Shared ι α} {turn : Turn ι} {turns : List (Turn ι)} :
      Step start turn between → Steps between turns finish → Steps start (turn :: turns) finish

variable {start between finish : Shared ι α} {client : ι} {turn : Turn ι}
  {turns first second : List (Turn ι)}

theorem steps_append :
    Steps start (first ++ second) finish ↔
      ∃ between, Steps start first between ∧ Steps between second finish := by
  induction first generalizing start with
  | nil =>
      constructor
      · intro hsteps
        exact ⟨start, .nil start, hsteps⟩
      · rintro ⟨between, hfirst, hsecond⟩
        cases hfirst
        exact hsecond
  | cons turn rest ih =>
      constructor
      · intro hsteps
        cases hsteps with
        | cons hstep hrest =>
            obtain ⟨between, hfirst, hsecond⟩ := ih.mp hrest
            exact ⟨between, .cons hstep hfirst, hsecond⟩
      · rintro ⟨between, hfirst, hsecond⟩
        cases hfirst with
        | cons hstep hrest => exact .cons hstep (ih.mpr ⟨between, hrest, hsecond⟩)

theorem Step.serves (hstep : Step start turn finish) :
    start.registry.Serves [turn.event] finish.registry := by
  cases hstep with
  | turn _ hserves => exact hserves

theorem Steps.serves (hsteps : Steps start turns finish) :
    start.registry.Serves (turns.map Turn.event) finish.registry := by
  induction hsteps with
  | nil => rfl
  | cons hstep _ ih => exact Registry.serves_cons.mpr ⟨_, hstep.serves, ih⟩

theorem Steps.begins (hsteps : Steps start turns finish) :
    (start.left client).Begins (doneBy client turns) (finish.left client) := by
  induction hsteps with
  | nil state => exact .here (state.left client)
  | cons hstep _ ih =>
      cases hstep with
      | @turn other _ _ _ _ hleft =>
          dsimp only at ih
          by_cases hother : other = client
          · subst hother
            rw [Function.update_self] at ih
            rw [doneBy_cons_self, hleft]
            exact .ask ih
          · rw [Function.update_of_ne (Ne.symm hother)] at ih
            rwa [doneBy_cons_of_ne hother]

/-- Nobody has to wait for another: a client that is let go on alone comes to its end. -/
theorem exists_steps_done (state : Shared ι α) (client : ι) :
    ∃ turns finish result, Steps state turns finish ∧ finish.left client = .done result := by
  obtain ⟨registry, left⟩ := state
  generalize hleft : left client = dialogue
  induction dialogue generalizing registry left with
  | done result => exact ⟨[], _, result, .nil _, hleft⟩
  | ask query next ih =>
      -- Any answer will do, but for that of the registry.
      obtain ⟨answer, after, hserves⟩ :
          ∃ answer after, registry.Serves [⟨query, answer⟩] after :=
        ⟨_, _, Registry.serves_converse Rehearsal.respond (Dialogue.call query)
          (.scripted [] .empty)⟩
      have hstep : Step ⟨registry, left⟩ ⟨client, ⟨query, answer⟩⟩
          ⟨after, Function.update left client (next answer)⟩ := .turn hleft hserves
      obtain ⟨turns, finish, result, hsteps, hdone⟩ :=
        ih answer after (Function.update left client (next answer)) (Function.update_self ..)
      exact ⟨_, finish, result, .cons hstep hsteps, hdone⟩

/-! ### Turns in a given order -/

/-- Lets clients take turns in a given order, each among others of its own. Those that are done are
passed over. -/
def play (respond : Dialogue.Respondent σ) :
    List ι → Shared ι α → (ι → σ) → List (Turn ι) × Shared ι α
  | [], state, _ => ([], state)
  | client :: order, state, others =>
      match state.left client with
      | .done _ => play respond order state others
      | .ask query next =>
          let (answer, registry, left) :=
            Registry.among respond query (state.registry, others client)
          let (turns, finish) := play respond order
            ⟨registry, Function.update state.left client (next answer)⟩
            (Function.update others client left)
          (⟨client, ⟨query, answer⟩⟩ :: turns, finish)

theorem steps_play (respond : Dialogue.Respondent σ) (order : List ι) (state : Shared ι α)
    (others : ι → σ) :
    Steps state (play respond order state others).1 (play respond order state others).2 := by
  induction order generalizing state others with
  | nil => exact .nil state
  | cons client order ih =>
      unfold play
      split
      · exact ih state others
      · rename_i query next hleft
        have hserves : state.registry.Serves
            [⟨query, (Registry.among respond query (state.registry, others client)).1⟩]
            (Registry.among respond query (state.registry, others client)).2.1 :=
          Registry.serves_converse respond (Dialogue.call query) (others client)
        exact .cons (.turn hleft hserves) (ih _ _)

end Shared

inductive Seat where
  | left
  | right
  deriving DecidableEq

end SubscriptionDesk

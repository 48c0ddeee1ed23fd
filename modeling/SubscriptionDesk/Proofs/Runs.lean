import SubscriptionDesk.Rehearsal

/-!
# Taking runs apart

A run of a call starts with that call, and a run of a dialogue that is done makes no call. With
`Dialogue.runs_bind` this is all that is needed to read the runs of a dialogue off its text. What
has to come before what in a run is said by `Preceded`.
-/

namespace SubscriptionDesk

/-- Whether each event of one kind has an event of another kind somewhere before it. -/
def Preceded (first later : Event → Prop) (events : List Event) : Prop :=
  ∀ before event after, events = before ++ event :: after → later event →
    ∃ earlier ∈ before, first earlier

namespace Preceded

variable {first later : Event → Prop} {left right events : List Event}

theorem of_forall_not (hnone : ∀ event ∈ events, ¬later event) : Preceded first later events := by
  rintro before event after rfl hlater
  exact absurd hlater (hnone event (by simp))

theorem imp {other : Event → Prop} (himp : ∀ event, first event → other event)
    (hpreceded : Preceded first later events) : Preceded other later events := by
  intro before event after hsplit hlater
  obtain ⟨earlier, hmem, hfirst⟩ := hpreceded before event after hsplit hlater
  exact ⟨earlier, hmem, himp earlier hfirst⟩

theorem append (hleft : Preceded first later left) (hright : Preceded first later right) :
    Preceded first later (left ++ right) := by
  intro before event after hsplit hlater
  rcases List.append_eq_append_iff.mp hsplit with ⟨middle, rfl, hrest⟩ | ⟨middle, rfl, hrest⟩
  · obtain ⟨earlier, hmem, hfirst⟩ := hright middle event after hrest hlater
    exact ⟨earlier, List.mem_append_right left hmem, hfirst⟩
  · cases middle with
    | nil =>
        obtain ⟨earlier, hmem, -⟩ := hright [] event after hrest.symm hlater
        exact absurd hmem List.not_mem_nil
    | cons head rest =>
        obtain ⟨rfl, -⟩ := List.cons.inj hrest
        exact hleft before event rest rfl hlater

/-- What has an event of the first kind in it may be followed by anything. -/
theorem append_of_exists (hleft : Preceded first later left)
    (hfirst : ∃ event ∈ left, first event) :
    Preceded first later (left ++ right) := by
  intro before event after hsplit hlater
  rcases List.append_eq_append_iff.mp hsplit with ⟨middle, rfl, hrest⟩ | ⟨middle, rfl, hrest⟩
  · obtain ⟨earlier, hmem, hearlier⟩ := hfirst
    exact ⟨earlier, List.mem_append_left middle hmem, hearlier⟩
  · cases middle with
    | nil =>
        obtain ⟨earlier, hmem, hearlier⟩ := hfirst
        rw [List.append_nil] at hmem
        exact ⟨earlier, hmem, hearlier⟩
    | cons head rest =>
        obtain ⟨rfl, -⟩ := List.cons.inj hrest
        exact hleft before event rest rfl hlater

theorem cons {event : Event} (hfirst : first event) (hnot : ¬later event) :
    Preceded first later (event :: events) := by
  have hhead : Preceded first later [event] := of_forall_not (by simpa using hnot)
  exact hhead.append_of_exists ⟨event, List.mem_cons_self, hfirst⟩

end Preceded

namespace Dialogue

variable {α β : Type} {events : List Event}

@[simp]
theorem runs_done_iff {expected result : α} :
    Runs (done expected) events result ↔ events = [] ∧ result = expected := by
  constructor
  · intro hruns
    cases hruns
    exact ⟨rfl, rfl⟩
  · rintro ⟨rfl, rfl⟩
    exact .done _

theorem runs_ask_iff {query : Query} {next : query.Answer → Dialogue α} {result : α} :
    Runs (ask query next) events result ↔
      ∃ answer rest, events = ⟨query, answer⟩ :: rest ∧ Runs (next answer) rest result := by
  constructor
  · intro hruns
    cases hruns with
    | ask hrest => exact ⟨_, _, rfl, hrest⟩
  · rintro ⟨answer, rest, rfl, hrest⟩
    exact .ask hrest

theorem runs_call_bind {query : Query} {f : query.Answer → Dialogue α} {result : α} :
    Runs (call query >>= f) events result ↔
      ∃ answer rest, events = ⟨query, answer⟩ :: rest ∧ Runs (f answer) rest result :=
  runs_ask_iff

theorem runs_call {query : Query} {result : query.Answer} :
    Runs (call query) events result ↔ events = [⟨query, result⟩] := by
  constructor
  · intro hruns
    obtain ⟨answer, rest, rfl, hrest⟩ := runs_ask_iff.mp hruns
    obtain ⟨rfl, rfl⟩ := runs_done_iff.mp hrest
    rfl
  · rintro rfl
    exact .ask (.done result)

/-- A step that makes no call only hands its result on. -/
theorem runs_map {dialogue : Dialogue α} {f : α → β} {result : β} :
    Runs (dialogue >>= fun value => done (f value)) events result ↔
      ∃ value, Runs dialogue events value ∧ result = f value := by
  rw [runs_bind]
  constructor
  · rintro ⟨first, value, second, hfirst, hsecond, rfl⟩
    obtain ⟨rfl, rfl⟩ := runs_done_iff.mp hsecond
    exact ⟨value, by rwa [List.append_nil], rfl⟩
  · rintro ⟨value, hruns, rfl⟩
    exact ⟨events, value, [], hruns, .done _, (List.append_nil _).symm⟩

end Dialogue

/-! ### Runs to look at -/

def Subscription.sample (name : String) : Subscription :=
  .create ⟨name⟩ ⟨"owner"⟩ ⟨"provider"⟩ ⟨"dataSet"⟩ ⟨"grid"⟩ (.range ⟨0, 1000⟩)
    ⟨.ofInt 0, .ofInt 0, .ofInt 1, .ofInt 1⟩

/-- The answers to a batch that needs a latency of half an hour: the user decides, and the schedule
leaves some names off. -/
def Script.crowded (decision : Decision) (unscheduled : List String) : Script :=
  { Script.empty with
    overlaps := [⟨.partlyCovered, .ofList [⟨"waves"⟩]⟩]
    proposals := [⟨.ofList [⟨"winds"⟩], 30, 0⟩]
    decisions := [decision]
    schedules := [.ofList (unscheduled.map Name.mk)] }

/-- Collaborators that answer by a script, around a registry of some subscriptions. -/
def Rehearsal.scripted (stored : List Subscription) (script : Script) : Rehearsal where
  registry := .ofList stored
  script := script
  detectsOverlap := false
  board := none

end SubscriptionDesk

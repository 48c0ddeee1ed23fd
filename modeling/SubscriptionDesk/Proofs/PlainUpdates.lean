import SubscriptionDesk.Proofs.UnmadeChanges

/-!
# Updates that nobody is asked about

An update that fits is made without asking the user, and nothing is scheduled after it. It writes
the batch without its marks, record by record, and of several records with one name the last stays.
What it gives back is what it has written, so that it can be run on that again: there is no mark
left to take off, and each name gets the record that it has. That holds whatever the collaborators
answer the second time, as long as the update is made and nobody is asked.
-/

namespace SubscriptionDesk

namespace Registry

variable {registry : Registry} {batch : List Subscription}

theorem putAll_putAll : (registry.putAll batch).putAll batch = registry.putAll batch := by
  refine ext fun name => ?_
  rw [find?_putAll, find?_putAll, ← Option.or_assoc, Option.or_self]

/-- Under the name of a record that was written stands one of those that were. -/
theorem exists_find?_putAll {record : Subscription} (hrecord : record ∈ batch) :
    ∃ written ∈ batch, (registry.putAll batch).find? record.name = some written := by
  have hsome : (batch.reverse.find? fun other => decide (other.name = record.name)).isSome :=
    List.find?_isSome.mpr ⟨record, List.mem_reverse.mpr hrecord, by simp⟩
  obtain ⟨written, hwritten⟩ := Option.isSome_iff_exists.mp hsome
  refine ⟨written, List.mem_reverse.mp (List.mem_of_find?_eq_some hwritten), ?_⟩
  rw [find?_putAll, hwritten, Option.some_or]

end Registry

namespace Negotiation

variable {config : DeskConfig} {wording : Wording} {user : UserId} {mutation : Mutation}
  {submitted batch : List Subscription} {record : Record} {events : List Event} {outcome : Outcome}

theorem unscheduled_of_mem_cleared {subscription : Subscription}
    (hmem : subscription ∈ cleared submitted) : subscription.unscheduled = false := by
  obtain ⟨original, -, rfl⟩ := List.mem_map.mp hmem
  rfl

theorem clearedMarks_cleared : clearedMarks (cleared submitted) = [] := by
  have hnone : (cleared submitted).filter Subscription.unscheduled = [] :=
    List.filter_eq_nil_iff.mpr fun _ hmem => by simp [unscheduled_of_mem_cleared hmem]
  rw [clearedMarks, hnone, List.map_nil]

/-- A negotiation without a decision takes the marks off and does nothing else to its batch. -/
theorem Ending.of_unprompted (hending : Ending config user mutation submitted events (.ok outcome))
    (hunprompted : decisions events = []) :
    outcome.subscriptions = cleared submitted ∧
      outcome.record.changes = clearedMarks submitted := by
  cases hending with
  | leaves _ hbatch hchanges => exact ⟨hbatch, hchanges⟩
  | makes _ hchosen _ _ _ hbatch hchanges =>
      rw [decisions_append] at hunprompted
      cases hchosen with
      | unasked => exact ⟨hbatch, hchanges.trans (List.append_nil _)⟩
      | decided _ _ hdecided =>
          rw [hdecided] at hunprompted
          contradiction

theorem ProposalCourse.standing_of_unprompted (hstanding : record.standing.2 = .empty)
    (hpropose : ProposalCourse config wording user mutation batch record events (.ok outcome))
    (hunprompted : decisions events = []) : outcome.record.standing.2 = .empty := by
  generalize hresult : (Except.ok outcome : Except ServiceFault Outcome) = result at hpropose
  cases hpropose with
  | failed fault reset =>
      cases hresult
      simpa [Outcome.aborted] using hstanding
  | fits hfits hexecute =>
      obtain ⟨message, after, rfl, rfl⟩ := concluded_eq_ok_iff.mp hresult.symm
      cases hexecute with
      | executed hchange => exact hstanding
  | abandoned | forced => exact absurd hunprompted (List.cons_ne_nil _ _)

/-- Without a decision nothing is scheduled, and so nothing is left off. -/
theorem Course.unscheduled_of_unprompted
    (hcourse : Course config wording user mutation submitted events (.ok outcome))
    (hunprompted : decisions events = []) :
    outcome.record.unscheduledAfterSchedule = .empty := by
  cases hcourse with
  | empty => rfl
  | stopped _ hcheck => exact congrArg Prod.snd hcheck.standing_of_error
  | passed _ hcheck hpropose =>
      rw [decisions_append] at hunprompted
      refine hpropose.standing_of_unprompted (congrArg Prod.snd hcheck.standing_of_ok) ?_
      exact (List.append_eq_nil_iff.mp hunprompted).2

end Negotiation

/-- An update of a batch that is made without asking the user, around a registry that works. -/
structure PlainUpdate (config : DeskConfig) (wording : Wording) (user : UserId)
    (batch : List Subscription) (registry : Registry) (events : List Event) (outcome : Outcome)
    (after : Registry) : Prop where
  runs : Dialogue.Runs ((Operation.updateAll batch).run config wording user) events (.ok outcome)
  serves : registry.Serves events after
  executed : outcome.record.actionExecuted = true
  unprompted : decisions events = []

namespace PlainUpdate

variable {config : DeskConfig} {wording : Wording} {user : UserId} {batch : List Subscription}
  {registry after : Registry} {events : List Event} {outcome : Outcome}

open Negotiation in
theorem effect (hplain : PlainUpdate config wording user batch registry events outcome after) :
    outcome.subscriptions = cleared batch ∧ outcome.record.changes = clearedMarks batch ∧
      after = registry.putAll (cleared batch) := by
  have hcourse := Operation.course_of_runs hplain.runs
  have hafter := hcourse.effect (by simp) hplain.serves
  rw [Operation.effect, if_pos hplain.executed] at hafter
  have hexecuted := hplain.executed
  have hunprompted := hplain.unprompted
  -- Only a negotiation gets as far as the change; the other courses contradict that it was made.
  cases hcourse with
  | invalid hinvalid =>
      obtain ⟨_, _, rfl⟩ := Operation.turnedDown_of_invalid? hinvalid
      contradiction
  | taken | unknown => contradiction
  | negotiated _ _ hnegotiation hfollow =>
      obtain ⟨before, rfl, hrecord, hbatch⟩ := hfollow.outcome_eq
      rw [decisions_append, decisions_append] at hunprompted
      obtain ⟨-, hrest⟩ := List.append_eq_nil_iff.mp hunprompted
      obtain ⟨hunasked, -⟩ := List.append_eq_nil_iff.mp hrest
      obtain ⟨hcleared, hchanges⟩ := hnegotiation.ending.of_unprompted hunasked
      have hnothing := hnegotiation.unscheduled_of_unprompted hunasked
      rw [hrecord, hnothing] at hafter
      refine ⟨hbatch.trans hcleared, hrecord ▸ hchanges, ?_⟩
      rw [hafter, hbatch.trans hcleared]
      exact Registry.flagged_nil
  | nothing => contradiction

/-- **A plain update takes the marks off, and a second one finds nothing to do.** -/
theorem reaches_fixedPoint
    (hfirst : PlainUpdate config wording user batch registry events outcome after) :
    (∀ changed ∈ outcome.subscriptions, changed.unscheduled = false ∧
        ∃ record, after.find? changed.name = some record ∧ record.unscheduled = false) ∧
      ∀ config wording user events again left,
        PlainUpdate config wording user outcome.subscriptions after events again left →
          again.record.changes = [] ∧ again.subscriptions = outcome.subscriptions ∧
            left = after := by
  obtain ⟨hbatch, -, rfl⟩ := hfirst.effect
  rw [hbatch]
  constructor
  · intro changed hchanged
    obtain ⟨record, hrecord, hfind⟩ := Registry.exists_find?_putAll hchanged
    exact ⟨Negotiation.unscheduled_of_mem_cleared hchanged, record, hfind,
      Negotiation.unscheduled_of_mem_cleared hrecord⟩
  · intro config wording user events again left hsecond
    obtain ⟨hagain, hchanges, rfl⟩ := hsecond.effect
    have hsame : Negotiation.cleared (Negotiation.cleared batch) = Negotiation.cleared batch :=
      Negotiation.cleared_eq_self_iff.mpr fun _ => Negotiation.unscheduled_of_mem_cleared
    rw [hsame] at hagain ⊢
    exact ⟨hchanges.trans Negotiation.clearedMarks_cleared, hagain, Registry.putAll_putAll⟩

end PlainUpdate

def staleBatch : List Subscription :=
  [{ Subscription.sample "winds" with unscheduled := true },
    { Subscription.sample "waves" with activity := .off },
    { Subscription.sample "winds" with latency := 7 }]

def staleStore : Registry :=
  .ofList
    [.sample "winds", { Subscription.sample "waves" with unscheduled := true }, .sample "rain"]

def staleUpdateRun : List Event × Except ServiceFault Outcome × Registry × Rehearsal :=
  ((Operation.updateAll staleBatch).run .standard standardWording ⟨"user"⟩).converse
    (Registry.among Rehearsal.respond) (staleStore, .scripted [] .empty)

def staleUpdateOutcome : Outcome := staleUpdateRun.2.1.toOption.getD .noSubscriptions

/-- Another user updates what was given back, around what is left in the registry, and is told of an
overlap. -/
def freshUpdateRun : List Event × Except ServiceFault Outcome × Registry × Rehearsal :=
  ((Operation.updateAll staleUpdateOutcome.subscriptions).run .standard standardWording
      ⟨"other"⟩).converse
    (Registry.among Rehearsal.respond)
    (staleUpdateRun.2.2.1,
      .scripted [] { Script.empty with overlaps := [⟨.partlyCovered, .ofList [⟨"rain"⟩]⟩] })

def freshUpdateOutcome : Outcome := freshUpdateRun.2.1.toOption.getD .noSubscriptions

theorem plainUpdate_stale :
    PlainUpdate .standard standardWording ⟨"user"⟩ staleBatch staleStore staleUpdateRun.1
      staleUpdateOutcome staleUpdateRun.2.2.1 where
  runs := by
    have hresult : staleUpdateRun.2.1 = .ok staleUpdateOutcome := by rfl
    rw [← hresult]
    exact Dialogue.runs_converse ..
  serves := Registry.serves_converse ..
  executed := by decide +kernel
  unprompted := by decide +kernel

theorem plainUpdate_fresh :
    PlainUpdate .standard standardWording ⟨"other"⟩ staleUpdateOutcome.subscriptions
      staleUpdateRun.2.2.1 freshUpdateRun.1 freshUpdateOutcome freshUpdateRun.2.2.1 where
  runs := by
    have hresult : freshUpdateRun.2.1 = .ok freshUpdateOutcome := by rfl
    rw [← hresult]
    exact Dialogue.runs_converse ..
  serves := Registry.serves_converse ..
  executed := by decide +kernel
  unprompted := by decide +kernel

theorem reaches_fixedPoint_staleUpdate :
    staleUpdateOutcome.record.changes = [.clearedUnscheduled ⟨"winds"⟩] ∧
      staleUpdateRun.2.2.1.records.map
          (fun record => (record.name.text, record.latency, record.unscheduled)) =
        [("rain", 0, false), ("waves", 0, false), ("winds", 7, false)] ∧
      freshUpdateOutcome.record.changes = [] ∧
      freshUpdateOutcome.subscriptions = staleUpdateOutcome.subscriptions ∧
      freshUpdateRun.2.2.1 = staleUpdateRun.2.2.1 :=
  ⟨by decide +kernel, by decide +kernel,
    plainUpdate_stale.reaches_fixedPoint.2 _ _ _ _ _ _ plainUpdate_fresh⟩

end SubscriptionDesk

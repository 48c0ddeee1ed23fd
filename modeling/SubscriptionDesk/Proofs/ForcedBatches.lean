import SubscriptionDesk.Desk
import SubscriptionDesk.Proofs.Endings
import SubscriptionDesk.Proofs.OfferedDecisions

/-!
# What a forced change is made to

A user who forces a change through gets the submitted batch with nothing but the marks set, or with
the marks set and everything turned off. Whether the decision was among the offers makes no
difference to that. It adds one warning to the record, in front of all others: nothing is warned of
before the user decides, and the record is only carried along by what comes after.
-/

namespace SubscriptionDesk

def Event.carried? : Event → Option (List Subscription)
  | ⟨.carryOut batch, _⟩ => some batch
  | _ => none

def carriedOut (events : List Event) : List (List Subscription) := events.filterMap Event.carried?

theorem carriedOut_append {first second : List Event} :
    carriedOut (first ++ second) = carriedOut first ++ carriedOut second :=
  List.filterMap_append

theorem carriedOut_eq_nil {events : List Event} (hnone : ∀ event ∈ events, event.carried? = none) :
    carriedOut events = [] :=
  List.filterMap_eq_nil_iff.mpr hnone

/-- The same event, had other decisions been offered. -/
def Event.reoffered (offers : List Offer) : Event → Event
  | ⟨.prompt configuration _, decision⟩ => ⟨.prompt configuration offers, decision⟩
  | event => event

theorem map_reoffered {offers : List Offer} {events : List Event}
    (hunasked : decisions events = []) : events.map (Event.reoffered offers) = events := by
  have hnone := List.filterMap_eq_nil_iff.mp hunasked
  calc events.map (Event.reoffered offers) = events.map id := by
        apply List.map_congr_left
        intro event hevent
        obtain ⟨query, answer⟩ := event
        cases query with
        | prompt => exact absurd (hnone _ hevent) (by simp [Event.decision?])
        | _ => rfl
    _ = events := List.map_id events

/-! ### Warnings in front of all others -/

def Record.forewarned (warnings : List String) (record : Record) : Record :=
  { record with warnings := warnings ++ record.warnings }

def Outcome.forewarned (warnings : List String) (outcome : Outcome) : Outcome :=
  { outcome with record := outcome.record.forewarned warnings }

namespace Record

variable {record : Record} {warnings : List String}

theorem push_forewarned {step : Step} :
    (record.forewarned warnings).push step = (record.push step).forewarned warnings := rfl

theorem warn_forewarned {warning : String} :
    (record.forewarned warnings).warn warning = (record.warn warning).forewarned warnings := by
  simp [warn, forewarned]

theorem note_forewarned {plan : Plan} :
    (record.forewarned warnings).note plan = (record.note plan).forewarned warnings := by
  simp [note, forewarned]

theorem afterReset_forewarned {answer : Except BandwidthFault Unit} :
    (record.forewarned warnings).afterReset answer =
      (record.afterReset answer).forewarned warnings := by
  rcases answer with fault | ⟨⟩
  · exact (congrArg (warn · _) push_forewarned).trans warn_forewarned
  · rfl

end Record

namespace Negotiation

def complaints (offers : List Offer) (decision : Decision) : List String :=
  if decision ∈ offered offers then [] else ["response " ++ decision.label ++ " was not offered"]

theorem noteDecision_eq_forewarned {record : Record} {offers : List Offer} {decision : Decision}
    (hquiet : record.warnings = []) :
    noteDecision record offers decision =
      (record.push (.prompted decision)).forewarned (complaints offers decision) := by
  unfold complaints
  by_cases hoffered : decision ∈ offered offers
  · rw [noteDecision_of_mem_offered hoffered, if_pos hoffered]
    rfl
  · have hnone : (offers.any fun offer => decide (offer.decision = decision)) = false := by
      simpa [offered] using hoffered
    unfold noteDecision
    rw [if_neg hoffered, hnone]
    simp [Record.warn, Record.forewarned, Record.push, hquiet]

variable {config : DeskConfig} {wording : Wording} {user : UserId} {mutation : Mutation}
  {submitted batch : List Subscription} {record : Record} {events : List Event} {plan : Plan}
  {warnings : List String}

theorem SettlementCourse.forewarned {message : String} {settled : String × Record}
    (hsettle : SettlementCourse user batch message (record.forewarned warnings) events settled) :
    ∃ (full : String) (plain : Record), settled = (full, plain.forewarned warnings) ∧
      ∀ others, SettlementCourse user batch message (record.forewarned others) events
        (full, plain.forewarned others) := by
  cases hsettle with
  | unconfirmed fault reset =>
      have hcarried (others : List String) :
          ((record.forewarned others).warn
              ("schedule not confirmed: " ++ fault.message)).afterReset reset =
            ((record.warn ("schedule not confirmed: " ++ fault.message)).afterReset
              reset).forewarned others := by
        rw [Record.warn_forewarned, Record.afterReset_forewarned]
      refine ⟨message ++ "\n\n" ++ unconfirmedMessage, _,
        congrArg (Prod.mk _) (hcarried warnings), fun others => ?_⟩
      rw [← hcarried others]
      exact .unconfirmed fault reset
  | @confirmed names flags flagWarnings hflags =>
      have hcarried (others : List String) :
          { ((record.forewarned others).push (.scheduled (UInt64.ofNat names.size))).warnAll
              flagWarnings with unscheduledAfterSchedule := names } =
            Record.forewarned others
              { (record.push (.scheduled (UInt64.ofNat names.size))).warnAll flagWarnings with
                unscheduledAfterSchedule := names } := by
        simp [Record.forewarned, Record.push, Record.warnAll]
      refine ⟨message ++ unscheduledLines names, _, congrArg (Prod.mk _) (hcarried warnings),
        fun others => ?_⟩
      rw [← hcarried others]
      exact .confirmed names hflags

/-- What is warned of before a forced change is carried along to the record of its outcome. -/
theorem ForceCourse.forewarned {result : Except ServiceFault Outcome}
    (hforce : ForceCourse user mutation batch (record.forewarned warnings) plan events result) :
    ∃ plain : Except ServiceFault Outcome, result = plain.map (Outcome.forewarned warnings) ∧
      ∀ others, ForceCourse user mutation batch (record.forewarned others) plan events
        (plain.map (Outcome.forewarned others)) := by
  cases hforce with
  | @settled told change settlement message _ _ htold hexecute hsettle =>
      cases hexecute with
      | executed hchange =>
          rw [Record.note_forewarned, Record.push_forewarned] at hsettle
          obtain ⟨full, plain, rfl, hothers⟩ := hsettle.forewarned
          refine ⟨.ok ⟨.success full, plan.applyTo batch, plain⟩, rfl, fun others => ?_⟩
          have hexecuted : ExecutionCourse mutation user (plan.applyTo batch)
              ((record.forewarned others).note plan) change
              (.ok (message, ((record.note plan).push .actionExecuted).forewarned others)) := by
            rw [Record.note_forewarned, ← Record.push_forewarned]
            exact .executed hchange
          exact .settled htold hexecuted (hothers others)
  | refused htold hexecute =>
      cases hexecute with
      | @refused _ fault reset hchange =>
          exact ⟨.error (.registry fault), rfl,
            fun others => .refused htold (.refused reset hchange)⟩

/-! ### What the change is run on -/

theorem ExecutionCourse.carriedOut_eq {executed : Except ServiceFault (String × Record)}
    (hexecute : ExecutionCourse .given user batch record events executed) :
    carriedOut events = [batch] := by
  have hgiven {change : List Event} {answer : Except RegistryFault String}
      (hchange : MutationCourse user batch .given change answer) : carriedOut change = [batch] := by
    cases hchange with
    | stored hnew => simp at hnew
    | updated _ hchanged => simp at hchanged
    | given => rfl
  cases hexecute with
  | executed hchange => exact hgiven (runs_mutation.mp hchange)
  | refused reset hchange =>
      rw [carriedOut_append, hgiven (runs_mutation.mp hchange)]
      rfl

theorem SettlementCourse.carriedOut_eq {message : String} {settled : String × Record}
    (hsettle : SettlementCourse user batch message record events settled) :
    carriedOut events = [] :=
  carriedOut_eq_nil (hsettle.forall_mem (fun _ => rfl) (fun _ => rfl) (fun _ _ => rfl)
    (fun _ _ => rfl) fun _ _ => rfl)

theorem ForceCourse.carriedOut_eq {result : Except ServiceFault Outcome}
    (hforce : ForceCourse user .given batch record plan events result) :
    carriedOut events = [plan.applyTo batch] := by
  cases hforce with
  | settled htold hexecute hsettle =>
      rw [carriedOut_append, carriedOut_append, hexecute.carriedOut_eq, hsettle.carriedOut_eq,
        carriedOut_eq_nil (forall_of_notices (fun _ _ => rfl) htold)]
      rfl
  | refused htold hexecute =>
      rw [carriedOut_append, hexecute.carriedOut_eq,
        carriedOut_eq_nil (forall_of_notices (fun _ _ => rfl) htold)]
      rfl

theorem OverlapCourse.carriedOut_eq {result : Except Outcome Record}
    (hcheck : OverlapCourse config batch record events result) : carriedOut events = [] := by
  cases hcheck <;> rfl

theorem OverlapCourse.warnings_of_ok {after : Record}
    (hcheck : OverlapCourse config batch record events (.ok after)) :
    after.warnings = record.warnings := by
  cases hcheck <;> rfl

/-- The marks that were taken off do not show in what is forced. -/
theorem map_force_cleared {decision : Decision} {force : Subscription → Subscription}
    (hforce : decision.force? = some force) :
    (cleared submitted).map force = submitted.map force := by
  unfold cleared
  rw [List.map_map]
  apply List.map_congr_left
  intro subscription hmem
  cases decision with
  | cancel | increaseLatency | editSubscriptions => contradiction
  | forceApplyDeactivated | forceApplyUnscheduled =>
      cases hforce
      rfl

/-- A decision that forces a change comes from the one prompt, and a change follows. -/
theorem ProposalCourse.forced_of_decided {decision : Decision}
    {force : Subscription → Subscription} {result : Except ServiceFault Outcome}
    (hforce : decision.force? = some force) (hdecided : decision ∈ decisions events)
    (hpropose : ProposalCourse config wording user mutation batch record events result) :
    ∃ proposal plan change,
      events = ⟨.propose batch, .ok proposal⟩ ::
        ⟨.prompt (question config batch proposal) (choices config wording batch proposal),
          decision⟩ :: change ∧
      proposal.hasUnscheduled = true ∧
      decision.resolve batch proposal (question config batch proposal) = .apply plan ∧
      plan.applyTo batch = batch.map force ∧
      ForceCourse user mutation batch
        (noteDecision (record.proposed proposal) (choices config wording batch proposal) decision)
        plan change result := by
  cases hpropose with
  | failed => exact absurd hdecided List.not_mem_nil
  | @fits proposal change executed hfits hexecute =>
      have hnone : decisions (⟨.propose batch, .ok proposal⟩ :: change) = [] :=
        hexecute.decisions_eq
      rw [hnone] at hdecided
      exact absurd hdecided List.not_mem_nil
  | @abandoned proposal answered names hunfit hresolve =>
      have hopened : decisions (managerOpened names) = [] := by
        cases names <;> rfl
      have hasked : decision ∈ answered :: decisions (managerOpened names) := hdecided
      rw [hopened, List.mem_singleton] at hasked
      subst hasked
      obtain ⟨plan, hplan, -⟩ := Decision.resolve_of_force? hforce
      rw [hresolve] at hplan
      contradiction
  | @forced proposal answered plan change result hunfit hresolve hchange =>
      have hasked : decision ∈ answered :: decisions change := hdecided
      rw [hchange.decisions_eq, List.mem_singleton] at hasked
      subst hasked
      exact ⟨proposal, plan, change, rfl, hunfit, hresolve,
        Decision.applyTo_of_force? hforce hresolve, hchange⟩

end Negotiation

open Dialogue Negotiation

/-- What comes of a decision that forces a change which the caller brought along. -/
structure ForcedThrough (config : DeskConfig) (wording : Wording) (user : UserId)
    (submitted : List Subscription) (decision : Decision) (force : Subscription → Subscription)
    (events : List Event) (result : Except ServiceFault Outcome) : Prop where
  received : carriedOut events = [submitted.map force]
  returned : ∀ outcome, result = .ok outcome → outcome.subscriptions = submitted.map force
  /-- Had other decisions been offered, the same calls and answers would have led to the same
  outcome but for the complaint. -/
  onlyWarned : ∃ (proposal : Proposal) (plain : Except ServiceFault Outcome),
    ⟨.prompt (question config (cleared submitted) proposal)
      (choices config wording (cleared submitted) proposal), decision⟩ ∈ events ∧
    result = plain.map (Outcome.forewarned
      (complaints (choices config wording (cleared submitted) proposal) decision)) ∧
    ∀ other : Wording, Runs (Operation.run config other user (.perform submitted))
      (events.map (Event.reoffered (choices config other (cleared submitted) proposal)))
      (plain.map (Outcome.forewarned
        (complaints (choices config other (cleared submitted) proposal) decision)))

/-- **Forced changes.** A user who forces a change through gets the change made to the submitted
batch, each subscription marked and, if it is to be so, turned off, in order and without any other
difference. That the decision was not offered is only complained of. -/
theorem forcedThrough_of_runs {config : DeskConfig} {wording : Wording} {user : UserId}
    {submitted : List Subscription} {decision : Decision} {force : Subscription → Subscription}
    {events : List Event} {result : Except ServiceFault Outcome}
    (hruns : Runs (Operation.run config wording user (.perform submitted)) events result)
    (hforce : decision.force? = some force) (hdecided : decision ∈ decisions events) :
    ForcedThrough config wording user submitted decision force events result := by
  have hcourse : Course config wording user .given submitted events result := runs_run.mp hruns
  cases hcourse with
  | empty => exact absurd hdecided List.not_mem_nil
  | stopped _ hcheck =>
      rw [hcheck.decisions_eq] at hdecided
      exact absurd hdecided List.not_mem_nil
  | @passed checked proposed record result hsome hcheck hpropose =>
      rw [decisions_append, hcheck.decisions_eq, List.nil_append] at hdecided
      obtain ⟨proposal, plan, change, rfl, hunfit, hresolve, happlied, hchange⟩ :=
        hpropose.forced_of_decided hforce hdecided
      rw [map_force_cleared hforce] at happlied
      -- A batch that passes the check has no warnings yet, so that the complaint is the first.
      have hnoted (offers : List Offer) :
          noteDecision (record.proposed proposal) offers decision =
            ((record.proposed proposal).push (.prompted decision)).forewarned
              (complaints offers decision) :=
        noteDecision_eq_forewarned hcheck.warnings_of_ok
      have hcarried := hchange.carriedOut_eq
      rw [hnoted] at hchange
      obtain ⟨plain, hplain, hothers⟩ := hchange.forewarned
      refine ⟨?_, ?_, proposal, plain, by simp, hplain, ?_⟩
      · rw [carriedOut_append, hcheck.carriedOut_eq, ← happlied]
        exact hcarried
      · rintro outcome rfl
        obtain ⟨_, _, _, _, _, _, -, -, -, -, rfl⟩ := hchange.of_ok
        exact happlied
      · intro other
        have hreoffered : ProposalCourse config other user .given (cleared submitted) record
            (⟨.propose (cleared submitted), .ok proposal⟩ ::
              ⟨.prompt (question config (cleared submitted) proposal)
                (choices config other (cleared submitted) proposal), decision⟩ :: change)
            (plain.map (Outcome.forewarned
              (complaints (choices config other (cleared submitted) proposal) decision))) := by
          refine .forced hunfit hresolve ?_
          rw [hnoted]
          exact hothers _
        rw [List.map_append, List.map_cons, List.map_cons, map_reoffered hcheck.decisions_eq,
          map_reoffered hchange.decisions_eq]
        exact runs_run.mpr (.passed hsome hcheck hreoffered)

def unevenBatch : List Subscription :=
  [.sample "winds", { Subscription.sample "waves" with unscheduled := true },
    { Subscription.sample "winds" with latency := 45, activity := .off }]

/-- A change that is forced through although that was not offered. The schedule leaves off something
that is not stored. -/
def unofferedForceRun : List Event × Except ServiceFault Outcome × Rehearsal :=
  (Operation.run .standard (standardWording.overridden [(.forceApplyUnscheduled, none)]) ⟨"user"⟩
      (.perform unevenBatch)).converse
    Rehearsal.respond (.scripted unevenBatch (.crowded .forceApplyUnscheduled ["storms"]))

theorem forcedThrough_unofferedForce :
    Runs (Operation.run .standard
        (standardWording.overridden [(.forceApplyUnscheduled, none)]) ⟨"user"⟩
        (.perform unevenBatch))
      unofferedForceRun.1 unofferedForceRun.2.1 ∧
    Decision.forceApplyUnscheduled.force? = some (fun subscription =>
      { subscription with unscheduled := true }) ∧
    Decision.forceApplyUnscheduled ∈ decisions unofferedForceRun.1 ∧
    ForcedThrough .standard (standardWording.overridden [(.forceApplyUnscheduled, none)]) ⟨"user"⟩
      unevenBatch .forceApplyUnscheduled
      (fun subscription => { subscription with unscheduled := true })
      unofferedForceRun.1 unofferedForceRun.2.1 ∧
    carriedOut unofferedForceRun.1 =
      [[{ Subscription.sample "winds" with unscheduled := true },
        { Subscription.sample "waves" with unscheduled := true },
        { Subscription.sample "winds" with
          unscheduled := true, latency := 45, activity := .off }]] ∧
    unofferedForceRun.2.1.toOption.map (fun outcome => outcome.record.warnings) =
      some ["response force_apply_unscheduled was not offered",
        "subscription storms not found in registry"] :=
  ⟨Dialogue.runs_converse .., rfl, by decide +kernel,
    forcedThrough_of_runs (Dialogue.runs_converse ..) rfl (by decide +kernel), by decide +kernel,
    by decide +kernel⟩

end SubscriptionDesk

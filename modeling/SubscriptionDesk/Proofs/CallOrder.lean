import SubscriptionDesk.Proofs.OperationCourse

/-!
# The order of the calls of a negotiation

A negotiation goes through six stages, each at most once and in a fixed order, and each is reached
exactly when the answers so far call for it. What else is called (notices, the subscription manager,
the flagging of names) lies between the stages or after them, and is left out of the skeleton.
-/

namespace SubscriptionDesk

inductive Stage where
  | check
  | advise
  | propose
  | ask
  | carryOut
  | schedule
  deriving DecidableEq

def Stage.inOrder : List Stage := [.check, .advise, .propose, .ask, .carryOut, .schedule]

def Query.stage? : Query → Option Stage
  | .checkOverlap _ => some .check
  | .showMessage _ _ => some .advise
  | .propose _ => some .propose
  | .prompt _ _ => some .ask
  | .carryOut _ => some .carryOut
  | .schedule _ => some .schedule
  | _ => none

def stages (events : List Event) : List Stage := events.filterMap fun event => event.query.stage?

def skeleton (events : List Event) : List Event :=
  events.filter fun event => event.query.stage?.isSome

section Skeleton

variable {first second events : List Event} {query : Query} {answer : query.Answer}

theorem skeleton_append : skeleton (first ++ second) = skeleton first ++ skeleton second :=
  List.filter_append ..

theorem skeleton_cons_of_stage {stage : Stage} (hstage : query.stage? = some stage) :
    skeleton (⟨query, answer⟩ :: events) = ⟨query, answer⟩ :: skeleton events :=
  List.filter_cons_of_pos (by simp [hstage])

theorem skeleton_cons_of_none (hstage : query.stage? = none) :
    skeleton (⟨query, answer⟩ :: events) = skeleton events :=
  List.filter_cons_of_neg (by simp [hstage])

theorem skeleton_eq_nil (hevents : ∀ event ∈ events, event.query.stage? = none) :
    skeleton events = [] :=
  List.filter_eq_nil_iff.mpr fun event hevent => by simp [hevents event hevent]

theorem mem_skeleton {stage : Stage} (hstage : query.stage? = some stage) :
    ⟨query, answer⟩ ∈ skeleton events ↔ (⟨query, answer⟩ : Event) ∈ events := by
  simp [skeleton, hstage]

theorem stages_skeleton : stages (skeleton events) = stages events := by
  induction events with
  | nil => rfl
  | cons event rest ih =>
      obtain ⟨query, answer⟩ := event
      cases hstage : query.stage? with
      | none =>
          rw [skeleton_cons_of_none hstage, ih]
          simp [stages, hstage]
      | some stage =>
          rw [skeleton_cons_of_stage hstage]
          simpa [stages, hstage] using ih

end Skeleton

namespace Negotiation

variable {config : DeskConfig} {wording : Wording} {user : UserId} {batch : List Subscription}
  {record : Record} {events : List Event}

theorem skeleton_of_notices {told : List Event} {notices : List Notice}
    (htold : told.map Event.query = notices.map Query.notify) : skeleton told = [] :=
  skeleton_eq_nil (forall_of_notices (fun _ _ => rfl) htold)

theorem FlagsCourse.skeleton_eq {names : List SubscriptionName} {warnings : List String}
    (hflags : FlagsCourse user names events warnings) : skeleton events = [] :=
  skeleton_eq_nil (hflags.forall_mem (fun _ _ => rfl) (fun _ _ => rfl) fun _ _ => rfl)

inductive ProposalSkeleton (config : DeskConfig) (wording : Wording) (batch : List Subscription) :
    List Event → Prop where
  | failed (fault : BandwidthFault) :
      ProposalSkeleton config wording batch [⟨.propose batch, .error fault⟩]
  | fits {proposal : Proposal} (answer : Except RegistryFault String) :
      proposal.hasUnscheduled = false →
      ProposalSkeleton config wording batch
        [⟨.propose batch, .ok proposal⟩, ⟨.carryOut batch, answer⟩]
  | abandoned {proposal : Proposal} {decision : Decision}
      {names : Option (NameSet .subscription)} :
      proposal.hasUnscheduled = true →
      decision.resolve batch proposal (question config batch proposal) = .abort names →
      ProposalSkeleton config wording batch
        [⟨.propose batch, .ok proposal⟩,
          ⟨.prompt (question config batch proposal) (choices config wording batch proposal),
            decision⟩]
  | refused {proposal : Proposal} {decision : Decision} {plan : Plan} (fault : RegistryFault) :
      proposal.hasUnscheduled = true →
      decision.resolve batch proposal (question config batch proposal) = .apply plan →
      ProposalSkeleton config wording batch
        [⟨.propose batch, .ok proposal⟩,
          ⟨.prompt (question config batch proposal) (choices config wording batch proposal),
            decision⟩,
          ⟨.carryOut (plan.applyTo batch), .error fault⟩]
  | settled {proposal : Proposal} {decision : Decision} {plan : Plan} (message : String)
      (answer : Except BandwidthFault (NameSet .subscription)) :
      proposal.hasUnscheduled = true →
      decision.resolve batch proposal (question config batch proposal) = .apply plan →
      ProposalSkeleton config wording batch
        [⟨.propose batch, .ok proposal⟩,
          ⟨.prompt (question config batch proposal) (choices config wording batch proposal),
            decision⟩,
          ⟨.carryOut (plan.applyTo batch), .ok message⟩,
          ⟨.schedule (plan.applyTo batch), answer⟩]

theorem ExecutionCourse.skeleton_of_ok {message : String} {after : Record}
    (hexecute : ExecutionCourse .given user batch record events (.ok (message, after))) :
    skeleton events = [⟨.carryOut batch, .ok message⟩] := by
  cases hexecute with
  | executed hchange =>
      cases Dialogue.runs_call.mp hchange
      rfl

theorem ExecutionCourse.skeleton_of_error {fault : ServiceFault}
    (hexecute : ExecutionCourse .given user batch record events (.error fault)) :
    ∃ cause, skeleton events = [⟨.carryOut batch, .error cause⟩] := by
  cases hexecute with
  | refused reset hchange =>
      cases Dialogue.runs_call.mp hchange
      exact ⟨_, rfl⟩

theorem SettlementCourse.skeleton_eq {message : String} {settled : String × Record}
    (hsettle : SettlementCourse user batch message record events settled) :
    ∃ answer, skeleton events = [⟨.schedule batch, answer⟩] := by
  cases hsettle with
  | unconfirmed fault reset => exact ⟨.error fault, rfl⟩
  | confirmed names hflags =>
      refine ⟨.ok names, ?_⟩
      rw [skeleton_cons_of_stage rfl, hflags.skeleton_eq]

theorem ProposalCourse.skeleton {result : Except ServiceFault Outcome}
    (hpropose : ProposalCourse config wording user .given batch record events result) :
    ProposalSkeleton config wording batch (skeleton events) := by
  cases hpropose with
  | failed fault reset => exact .failed fault
  | @fits proposal change executed hfits hexecute =>
      rw [skeleton_cons_of_stage rfl]
      rcases executed with fault | ⟨message, after⟩
      · obtain ⟨cause, hchange⟩ := hexecute.skeleton_of_error
        rw [hchange]
        exact .fits _ hfits
      · rw [hexecute.skeleton_of_ok]
        exact .fits _ hfits
  | @abandoned proposal decision names hunfit hresolve =>
      have hopened : SubscriptionDesk.skeleton (managerOpened names) = [] := by
        cases names <;> rfl
      rw [skeleton_cons_of_stage rfl, skeleton_cons_of_stage rfl, hopened]
      exact .abandoned hunfit hresolve
  | forced hunfit hresolve hforce =>
      rw [skeleton_cons_of_stage rfl, skeleton_cons_of_stage rfl]
      cases hforce with
      | settled htold hexecute hsettle =>
          obtain ⟨scheduled, hscheduled⟩ := hsettle.skeleton_eq
          rw [skeleton_append, skeleton_append, skeleton_of_notices htold,
            hexecute.skeleton_of_ok, hscheduled]
          exact .settled _ scheduled hunfit hresolve
      | refused htold hexecute =>
          obtain ⟨cause, hchange⟩ := hexecute.skeleton_of_error
          rw [skeleton_append, skeleton_of_notices htold, hchange]
          exact .refused cause hunfit hresolve

/-! ### Which stages are reached -/

theorem OverlapCourse.stages_sublist {result : Except Outcome Record}
    (hcheck : OverlapCourse config batch record events result) :
    (stages events).Sublist [.check, .advise] := by
  cases hcheck <;> simp [stages, Query.stage?]

theorem OverlapCourse.stage?_eq {result : Except Outcome Record}
    (hcheck : OverlapCourse config batch record events result) :
    ∀ event ∈ events, event.query.stage? ∈ [none, some .check, some .advise] := by
  cases hcheck <;> simp [Query.stage?]

theorem OverlapCourse.not_mem {result : Except Outcome Record} {query : Query}
    {answer : query.Answer} (hcheck : OverlapCourse config batch record events result)
    (hstage : query.stage? ∉ [none, some .check, some .advise]) : ⟨query, answer⟩ ∉ events :=
  fun hmem => hstage (hcheck.stage?_eq _ hmem)

theorem OverlapCourse.checked {result : Except Outcome Record} {list : List Subscription}
    {answer : Except RegistryFault OverlapReport}
    (hcheck : OverlapCourse config batch record events result)
    (hmem : ⟨.checkOverlap list, answer⟩ ∈ events) : list = candidates batch ∧ list ≠ [] := by
  cases hcheck <;> simp_all

theorem OverlapCourse.checked_first {result : Except Outcome Record}
    (hcheck : OverlapCourse config batch record events result) (hsome : candidates batch ≠ []) :
    ∃ answer rest, events = ⟨.checkOverlap (candidates batch), answer⟩ :: rest := by
  cases hcheck with
  | unchecked hnone => exact absurd hnone hsome
  | failed | clear | partlyCovered | duplicate => exact ⟨_, _, rfl⟩

theorem OverlapCourse.advised_iff {result : Except Outcome Record} {title message : String}
    (hcheck : OverlapCourse config batch record events result) :
    ⟨.showMessage title message, ()⟩ ∈ events ↔
      ∃ names, ⟨.checkOverlap (candidates batch), .ok ⟨.partlyCovered, names⟩⟩ ∈ events ∧
        title = config.overlapTitle ∧ message = overlapMessage names := by
  cases hcheck <;> simp

theorem OverlapCourse.passes_iff {result : Except Outcome Record}
    (hcheck : OverlapCourse config batch record events result) :
    (∃ after, result = .ok after) ↔ candidates batch = [] ∨
      ∃ report, report.kind ≠ .duplicate ∧
        ⟨.checkOverlap (candidates batch), .ok report⟩ ∈ events := by
  cases hcheck <;> simp_all

theorem ProposalSkeleton.stages_sublist (hskeleton : ProposalSkeleton config wording batch events) :
    (stages events).Sublist [.propose, .ask, .carryOut, .schedule] := by
  cases hskeleton <;> simp [stages, Query.stage?]

theorem ProposalSkeleton.stage?_ne (hskeleton : ProposalSkeleton config wording batch events) :
    ∀ event ∈ events, event.query.stage? ∉ [none, some .check, some .advise] := by
  cases hskeleton <;> simp [Query.stage?]

theorem ProposalCourse.not_mem {result : Except ServiceFault Outcome} {query : Query}
    {answer : query.Answer}
    (hpropose : ProposalCourse config wording user .given batch record events result)
    {stage : Stage} (hstage : query.stage? = some stage) (hearly : stage ∈ [Stage.check, .advise]) :
    ⟨query, answer⟩ ∉ events := by
  intro hmem
  have hne := hpropose.skeleton.stage?_ne _ ((mem_skeleton hstage).mpr hmem)
  simp_all

theorem ProposalSkeleton.proposed_iff {list : List Subscription}
    (hskeleton : ProposalSkeleton config wording batch events) :
    (∃ answer, ⟨.propose list, answer⟩ ∈ events) ↔ list = batch := by
  cases hskeleton <;> simp

theorem ProposalSkeleton.asked_iff {configuration : PromptConfiguration} {offers : List Offer}
    (hskeleton : ProposalSkeleton config wording batch events) :
    (∃ decision, ⟨.prompt configuration offers, decision⟩ ∈ events) ↔
      ∃ proposal, ⟨.propose batch, .ok proposal⟩ ∈ events ∧ proposal.hasUnscheduled = true ∧
        configuration = question config batch proposal ∧
        offers = choices config wording batch proposal := by
  cases hskeleton <;> simp_all

theorem ProposalSkeleton.carriedOut_iff {list : List Subscription}
    (hskeleton : ProposalSkeleton config wording batch events) :
    (∃ answer, ⟨.carryOut list, answer⟩ ∈ events) ↔
      ∃ proposal, ⟨.propose batch, .ok proposal⟩ ∈ events ∧
        (proposal.hasUnscheduled = false ∧ list = batch ∨
          ∃ configuration offers decision plan,
            ⟨.prompt configuration offers, decision⟩ ∈ events ∧
            decision.resolve batch proposal configuration = .apply plan ∧
            list = plan.applyTo batch) := by
  cases hskeleton <;> simp_all [and_assoc]

theorem ProposalSkeleton.scheduled_iff {list : List Subscription}
    (hskeleton : ProposalSkeleton config wording batch events) :
    (∃ answer, ⟨.schedule list, answer⟩ ∈ events) ↔
      (∃ configuration offers decision, ⟨.prompt configuration offers, decision⟩ ∈ events) ∧
        ∃ message, ⟨.carryOut list, .ok message⟩ ∈ events := by
  cases hskeleton <;> simp_all

/-! ### Flagging comes last -/

/-- Whether an event is an answer of the bandwidth manager that puts a batch on the schedule. -/
def Scheduled (event : Event) : Prop :=
  ∃ batch names, event = ⟨.schedule batch, .ok names⟩

def CallsRegistry (event : Event) : Prop :=
  ∃ call, event.query = .registry call

theorem OverlapCourse.preceded {result : Except Outcome Record}
    (hcheck : OverlapCourse config batch record events result) :
    Preceded Scheduled CallsRegistry events := by
  refine .of_forall_not ?_
  cases hcheck <;> simp [CallsRegistry]

theorem ExecutionCourse.preceded {executed : Except ServiceFault (String × Record)}
    (hexecute : ExecutionCourse .given user batch record events executed) :
    Preceded Scheduled CallsRegistry events := by
  refine .of_forall_not ?_
  cases hexecute with
  | executed hchange =>
      cases Dialogue.runs_call.mp hchange
      simp [CallsRegistry]
  | refused reset hchange =>
      cases Dialogue.runs_call.mp hchange
      simp [CallsRegistry]

theorem SettlementCourse.preceded {message : String} {settled : String × Record}
    (hsettle : SettlementCourse user batch message record events settled) :
    Preceded Scheduled CallsRegistry events := by
  cases hsettle with
  | unconfirmed fault reset => exact .of_forall_not (by simp [CallsRegistry])
  | confirmed names hflags => exact .cons ⟨batch, names, rfl⟩ (by simp [CallsRegistry])

theorem preceded_of_notices {told : List Event} {notices : List Notice}
    (htold : told.map Event.query = notices.map Query.notify) :
    Preceded Scheduled CallsRegistry told :=
  .of_forall_not (forall_of_notices (by simp [CallsRegistry]) htold)

theorem ProposalCourse.preceded {result : Except ServiceFault Outcome}
    (hpropose : ProposalCourse config wording user .given batch record events result) :
    Preceded Scheduled CallsRegistry events := by
  cases hpropose with
  | failed fault reset => exact .of_forall_not (by simp [CallsRegistry])
  | @fits proposal change executed hfits hexecute =>
      have hproposed : Preceded Scheduled CallsRegistry [⟨.propose batch, .ok proposal⟩] :=
        .of_forall_not (by simp [CallsRegistry])
      exact hproposed.append hexecute.preceded
  | @abandoned proposal decision names hunfit hresolve =>
      refine .of_forall_not ?_
      cases names <;> simp [CallsRegistry, managerOpened]
  | @forced proposal decision plan change result hunfit hresolve hforce =>
      have hasked : Preceded Scheduled CallsRegistry
          [⟨.propose batch, .ok proposal⟩,
            ⟨.prompt (question config batch proposal) (choices config wording batch proposal),
              decision⟩] :=
        .of_forall_not (by simp [CallsRegistry])
      refine hasked.append ?_
      cases hforce with
      | settled htold hexecute hsettle =>
          exact (preceded_of_notices htold).append (hexecute.preceded.append hsettle.preceded)
      | refused htold hexecute => exact (preceded_of_notices htold).append hexecute.preceded

end Negotiation

open Negotiation

/-- The order of the calls of a negotiation whose change is carried out by its caller. -/
structure CallsInOrder (config : DeskConfig) (wording : Wording) (submitted : List Subscription)
    (events : List Event) : Prop where
  inOrder : (stages events).Sublist Stage.inOrder
  silent : submitted = [] → events = []
  /-- If some of the batch is on, the check of just that part is the first call. -/
  checkedFirst : (∃ subscription ∈ submitted, subscription.activity = .on) →
    ∃ answer rest, events = ⟨.checkOverlap (candidates (cleared submitted)), answer⟩ :: rest
  checkedOnly : ∀ list answer, ⟨.checkOverlap list, answer⟩ ∈ events →
    (list = (submitted.filter fun subscription => decide (subscription.activity = .on)).map
      fun subscription => { subscription with unscheduled := false }) ∧ list ≠ []
  /-- The user is advised of a partial overlap, and of nothing else. -/
  advised : ∀ title message, ⟨.showMessage title message, ()⟩ ∈ events ↔
    ∃ names,
      ⟨.checkOverlap (candidates (cleared submitted)), .ok ⟨.partlyCovered, names⟩⟩ ∈ events ∧
      title = config.overlapTitle ∧ message = overlapMessage names
  /-- The whole batch, without old marks, is proposed unless the check fails or finds it all. -/
  proposed : ∀ batch, (∃ answer, ⟨.propose batch, answer⟩ ∈ events) ↔
    submitted ≠ [] ∧
      batch = submitted.map (fun subscription => { subscription with unscheduled := false }) ∧
      ((∀ subscription ∈ submitted, subscription.activity = .off) ∨
        ∃ report, report.kind ≠ .duplicate ∧
          ⟨.checkOverlap (candidates (cleared submitted)), .ok report⟩ ∈ events)
  asked : ∀ configuration offers, (∃ decision, ⟨.prompt configuration offers, decision⟩ ∈ events) ↔
    ∃ proposal, ⟨.propose (cleared submitted), .ok proposal⟩ ∈ events ∧
      proposal.hasUnscheduled = true ∧
      configuration = question config (cleared submitted) proposal ∧
      offers = choices config wording (cleared submitted) proposal
  /-- The change is made exactly when a proposal names nobody or the user's decision applies. -/
  carriedOut : ∀ batch, (∃ answer, ⟨.carryOut batch, answer⟩ ∈ events) ↔
    ∃ proposal, ⟨.propose (cleared submitted), .ok proposal⟩ ∈ events ∧
      (proposal.hasUnscheduled = false ∧ batch = cleared submitted ∨
        ∃ configuration offers decision plan,
          ⟨.prompt configuration offers, decision⟩ ∈ events ∧
          decision.resolve (cleared submitted) proposal configuration = .apply plan ∧
          batch = plan.applyTo (cleared submitted))
  /-- A batch is scheduled exactly when the user was asked and the change to it succeeded. -/
  scheduled : ∀ batch, (∃ answer, ⟨.schedule batch, answer⟩ ∈ events) ↔
    (∃ configuration offers decision, ⟨.prompt configuration offers, decision⟩ ∈ events) ∧
      ∃ message, ⟨.carryOut batch, .ok message⟩ ∈ events
  /-- The registry is called only to flag what the schedule has left out. -/
  flaggedLast : Preceded Scheduled CallsRegistry events

section Assembly

variable {config : DeskConfig} {wording : Wording} {user : UserId} {submitted : List Subscription}
  {events : List Event}

/-- Marks do not matter to what is looked for. -/
theorem candidates_cleared :
    candidates (cleared submitted) =
      (submitted.filter fun subscription => decide (subscription.activity = .on)).map
        fun subscription => { subscription with unscheduled := false } :=
  List.filter_map

theorem candidates_cleared_eq_nil_iff :
    candidates (cleared submitted) = [] ↔
      ∀ subscription ∈ submitted, subscription.activity = .off := by
  rw [candidates_cleared, List.map_eq_nil_iff, List.filter_eq_nil_iff]
  refine forall₂_congr fun subscription _ => ?_
  cases subscription.activity <;> simp

theorem candidates_cleared_ne_nil (hon : ∃ subscription ∈ submitted, subscription.activity = .on) :
    candidates (cleared submitted) ≠ [] := by
  obtain ⟨subscription, hmem, hactivity⟩ := hon
  intro hnil
  rw [candidates_cleared_eq_nil_iff.mp hnil subscription hmem] at hactivity
  contradiction

theorem callsInOrder_nil (hnil : submitted = []) : CallsInOrder config wording submitted [] := by
  subst hnil
  constructor <;> simp [stages, candidates, cleared, Preceded]

theorem callsInOrder_of_stopped {record : Record} {outcome : Outcome} (hsome : submitted ≠ [])
    (hcheck : OverlapCourse config (cleared submitted) record events (.error outcome)) :
    CallsInOrder config wording submitted events := by
  have hstopped : ¬∃ after, (.error outcome : Except Outcome Record) = .ok after := by simp
  have hproposed (batch answer) : ⟨.propose batch, answer⟩ ∉ events :=
    hcheck.not_mem (by simp [Query.stage?])
  have hasked (configuration offers decision) :
      ⟨.prompt configuration offers, decision⟩ ∉ events :=
    hcheck.not_mem (by simp [Query.stage?])
  have hcarried (batch answer) : ⟨.carryOut batch, answer⟩ ∉ events :=
    hcheck.not_mem (by simp [Query.stage?])
  have hscheduled (batch answer) : ⟨.schedule batch, answer⟩ ∉ events :=
    hcheck.not_mem (by simp [Query.stage?])
  constructor
  case inOrder => exact hcheck.stages_sublist.trans (by decide)
  case silent => exact fun hnil => absurd hnil hsome
  case checkedFirst => exact fun hon => hcheck.checked_first (candidates_cleared_ne_nil hon)
  case checkedOnly => exact fun _ _ hmem => candidates_cleared ▸ hcheck.checked hmem
  case advised => exact fun _ _ => hcheck.advised_iff
  case proposed =>
    intro batch
    constructor
    · rintro ⟨answer, hmem⟩
      exact absurd hmem (hproposed batch answer)
    · rintro ⟨-, -, hpasses⟩
      rw [← candidates_cleared_eq_nil_iff] at hpasses
      exact absurd (hcheck.passes_iff.mpr hpasses) hstopped
  case asked => simp [hasked, hproposed]
  case carriedOut => simp [hcarried, hproposed]
  case scheduled => simp [hscheduled, hasked]
  case flaggedLast => exact hcheck.preceded

theorem callsInOrder_of_passed {record after : Record} {checked proposed : List Event}
    {result : Except ServiceFault Outcome} (hsome : submitted ≠ [])
    (hcheck : OverlapCourse config (cleared submitted) record checked (.ok after))
    (hpropose : ProposalCourse config wording user .given (cleared submitted) after proposed
      result) :
    CallsInOrder config wording submitted (checked ++ proposed) := by
  have hskeleton := hpropose.skeleton
  -- The check and the advice lie in the first part of the run, all other stages in the second, so
  -- that each statement below is one about one part.
  have hearly (query : Query) {answer : query.Answer} {stage : Stage}
      (hstage : query.stage? = some stage) (hin : stage ∈ [Stage.check, .advise]) :
      ⟨query, answer⟩ ∈ checked ++ proposed ↔ (⟨query, answer⟩ : Event) ∈ checked := by
    rw [List.mem_append, or_iff_left (hpropose.not_mem hstage hin)]
  have hlate (query : Query) {answer : query.Answer} {stage : Stage}
      (hstage : query.stage? = some stage) (hnot : stage ∉ [Stage.check, .advise]) :
      ⟨query, answer⟩ ∈ checked ++ proposed ↔
        (⟨query, answer⟩ : Event) ∈ skeleton proposed := by
    have hchecked : (⟨query, answer⟩ : Event) ∉ checked := hcheck.not_mem (by simp_all)
    rw [List.mem_append, or_iff_right hchecked, mem_skeleton hstage]
  constructor
  case inOrder =>
    have hstages : (stages proposed).Sublist [.propose, .ask, .carryOut, .schedule] :=
      stages_skeleton ▸ hskeleton.stages_sublist
    have happend : stages (checked ++ proposed) = stages checked ++ stages proposed :=
      List.filterMap_append
    rw [happend]
    exact hcheck.stages_sublist.append hstages
  case silent => exact fun hnil => absurd hnil hsome
  case checkedFirst =>
    intro hon
    obtain ⟨answer, rest, rfl⟩ := hcheck.checked_first (candidates_cleared_ne_nil hon)
    exact ⟨answer, rest ++ proposed, rfl⟩
  case checkedOnly =>
    intro list answer hmem
    rw [← candidates_cleared]
    exact hcheck.checked ((hearly _ rfl (by decide)).mp hmem)
  case advised =>
    intro title message
    simp only [hearly (.showMessage title message) rfl (by decide), hcheck.advised_iff,
      hearly (.checkOverlap _) rfl (by decide)]
  case proposed =>
    intro batch
    simp only [hlate (.propose batch) rfl (by decide), hskeleton.proposed_iff,
      hearly (.checkOverlap _) rfl (by decide), ← candidates_cleared_eq_nil_iff,
      ← hcheck.passes_iff]
    simp [hsome, cleared]
  case asked =>
    intro configuration offers
    simp only [hlate (.prompt _ _) rfl (by decide),
      hlate (.propose _) rfl (by decide), hskeleton.asked_iff]
  case carriedOut =>
    intro batch
    simp only [hlate (.carryOut _) rfl (by decide),
      hlate (.prompt _ _) rfl (by decide),
      hlate (.propose _) rfl (by decide), hskeleton.carriedOut_iff]
  case scheduled =>
    intro batch
    simp only [hlate (.schedule _) rfl (by decide),
      hlate (.prompt _ _) rfl (by decide),
      hlate (.carryOut _) rfl (by decide), hskeleton.scheduled_iff]
  case flaggedLast => exact hcheck.preceded.append hpropose.preceded

/-- **The order of the calls.** Whatever is answered, a negotiation of a change that its caller
brings along calls on the others in order. -/
theorem perform_callsInOrder {result : Except ServiceFault Outcome}
    (hruns : Dialogue.Runs (Operation.run config wording user (.perform submitted)) events result) :
    CallsInOrder config wording submitted events := by
  have hcourse : Course config wording user .given submitted events result := runs_run.mp hruns
  cases hcourse with
  | empty hnil => exact callsInOrder_nil hnil
  | stopped hsome hcheck => exact callsInOrder_of_stopped hsome hcheck
  | passed hsome hcheck hpropose => exact callsInOrder_of_passed hsome hcheck hpropose

end Assembly

def markedBatch : List Subscription :=
  [{ Subscription.sample "winds" with unscheduled := true },
    { Subscription.sample "tides" with unscheduled := true, activity := .off },
    .sample "waves"]

/-- A change that is forced through for a batch of several, and a mark where even that does not
do. -/
def crowdedRun : List Event × Except ServiceFault Outcome × Rehearsal :=
  (Operation.run .standard standardWording ⟨"user"⟩ (.perform markedBatch)).converse
    Rehearsal.respond
    (.scripted markedBatch (.crowded .forceApplyUnscheduled ["winds"]))

theorem perform_callsInOrder_crowded :
    Dialogue.Runs (Operation.run .standard standardWording ⟨"user"⟩ (.perform markedBatch))
        crowdedRun.1 crowdedRun.2.1 ∧
      stages crowdedRun.1 = Stage.inOrder ∧
      CallsInOrder .standard standardWording markedBatch crowdedRun.1 ∧
      .checkOverlap [.sample "winds", .sample "waves"] ∈ crowdedRun.1.map Event.query ∧
      .propose [.sample "winds", { Subscription.sample "tides" with activity := .off },
        .sample "waves"] ∈ crowdedRun.1.map Event.query :=
  ⟨Dialogue.runs_converse .., by decide +kernel,
    perform_callsInOrder (Dialogue.runs_converse ..), by decide +kernel, by decide +kernel⟩

end SubscriptionDesk

import SubscriptionDesk.Negotiation
import SubscriptionDesk.Proofs.Runs

/-!
# How a negotiation can go

Each part of a negotiation is described by the calls that a run of it makes, with any answers, and
by what it leads to. Statements about all runs are proved from these descriptions, so that only this
file follows the text of the negotiation.
-/

namespace SubscriptionDesk

def Record.afterReset (record : Record) : Except BandwidthFault Unit → Record
  | .ok () => record.push .reinitialized
  | .error fault => (record.push .reinitialized).warn ("reinitialize failed: " ++ fault.message)

def Record.proposed (record : Record) (proposal : Proposal) : Record :=
  record.push (.proposed (UInt64.ofNat proposal.unscheduled.size))

def Record.warnAll (record : Record) (warnings : List String) : Record :=
  { record with warnings := record.warnings ++ warnings }

theorem Record.warnAll_nil (record : Record) : record.warnAll [] = record := by
  simp [warnAll]

theorem Record.warnAll_warnAll (record : Record) (first second : List String) :
    (record.warnAll first).warnAll second = record.warnAll (first ++ second) := by
  simp [warnAll]

namespace Negotiation

open Dialogue

/-! ### Calls whose answers make no difference to the calls that follow -/

section Housekeeping

variable {record : Record} {batch : List Subscription} {events : List Event}

theorem runs_resetManager {after : Record} :
    Runs (resetManager record) events after ↔
      ∃ answer, events = [⟨.resetManager, answer⟩] ∧ after = record.afterReset answer := by
  unfold resetManager
  rw [runs_call_bind]
  constructor
  · rintro ⟨answer, rest, rfl, hrest⟩
    refine ⟨answer, ?_⟩
    rcases answer with fault | ⟨⟩
    · obtain ⟨rfl, rfl⟩ := runs_done_iff.mp hrest
      exact ⟨rfl, rfl⟩
    · obtain ⟨rfl, rfl⟩ := runs_done_iff.mp hrest
      exact ⟨rfl, rfl⟩
  · rintro ⟨answer, rfl, rfl⟩
    refine ⟨answer, [], rfl, ?_⟩
    rcases answer with fault | ⟨⟩ <;> exact .done _

theorem runs_breakOff {outcome : Outcome} :
    Runs (breakOff batch record) events outcome ↔
      ∃ answer, events = [⟨.resetManager, answer⟩] ∧
        outcome = .aborted .failure batch (record.afterReset answer) := by
  refine runs_map.trans ?_
  constructor
  · rintro ⟨after, hreset, rfl⟩
    obtain ⟨answer, rfl, rfl⟩ := runs_resetManager.mp hreset
    exact ⟨answer, rfl, rfl⟩
  · rintro ⟨answer, rfl, rfl⟩
    exact ⟨_, runs_resetManager.mpr ⟨answer, rfl, rfl⟩, rfl⟩

theorem runs_notify {notice : Notice} :
    Runs (notify notice) events () ↔ ∃ answer, events = [⟨.notify notice, answer⟩] := by
  refine runs_call_bind.trans ?_
  constructor
  · rintro ⟨answer, rest, rfl, hrest⟩
    obtain ⟨rfl, -⟩ := runs_done_iff.mp hrest
    exact ⟨answer, rfl⟩
  · rintro ⟨answer, rfl⟩
    exact ⟨answer, [], rfl, .done _⟩

/-- What holds of every notice, however it is answered, holds of a run that sends only notices. -/
theorem forall_of_notices {holds : Event → Prop} {notices : List Notice}
    (hnotice : ∀ notice answer, holds ⟨.notify notice, answer⟩)
    (htold : events.map Event.query = notices.map Query.notify) :
    ∀ event ∈ events, holds event := by
  intro event hevent
  have hquery : event.query ∈ notices.map Query.notify := htold ▸ List.mem_map_of_mem hevent
  obtain ⟨notice, -, heq⟩ := List.mem_map.mp hquery
  obtain ⟨query, answer⟩ := event
  obtain rfl : Query.notify notice = query := heq
  exact hnotice notice answer

theorem runs_notifyEach {notice : Subscription → Notice} :
    Runs (notifyEach notice batch) events () ↔
      events.map Event.query = batch.map fun subscription => .notify (notice subscription) := by
  induction batch generalizing events with
  | nil => simp [notifyEach]
  | cons subscription rest ih =>
      unfold notifyEach
      rw [runs_bind]
      constructor
      · rintro ⟨first, _, second, hfirst, hsecond, rfl⟩
        obtain ⟨answer, rfl⟩ := runs_notify.mp hfirst
        simp [ih.mp hsecond]
      · intro hqueries
        obtain ⟨event, later, rfl, hquery, hlater⟩ := List.map_eq_cons_iff.mp hqueries
        obtain ⟨query, answer⟩ := event
        subst hquery
        exact ⟨[_], (), later, runs_notify.mpr ⟨answer, rfl⟩, ih.mpr hlater, rfl⟩

end Housekeeping

/-! ### The overlap check -/

/-- The part of a batch that is looked for in what is retrieved already. -/
def candidates (batch : List Subscription) : List Subscription :=
  batch.filter fun subscription => decide (subscription.activity = .on)

/-- How the overlap check of a batch can go: the calls, and whether the batch passes. -/
inductive OverlapCourse (config : DeskConfig) (batch : List Subscription) (record : Record) :
    List Event → Except Outcome Record → Prop where
  | unchecked : candidates batch = [] → OverlapCourse config batch record [] (.ok record)
  | failed (fault : RegistryFault) (reset : Except BandwidthFault Unit) :
      candidates batch ≠ [] →
      OverlapCourse config batch record
        [⟨.checkOverlap (candidates batch), .error fault⟩, ⟨.resetManager, reset⟩]
        (.error (.aborted .failure batch (record.afterReset reset)))
  | clear (names : NameSet .subscription) :
      candidates batch ≠ [] →
      OverlapCourse config batch record
        [⟨.checkOverlap (candidates batch), .ok ⟨.clear, names⟩⟩]
        (.ok (record.push (.overlapChecked .clear)))
  | partlyCovered (names : NameSet .subscription) :
      candidates batch ≠ [] →
      OverlapCourse config batch record
        [⟨.checkOverlap (candidates batch), .ok ⟨.partlyCovered, names⟩⟩,
          ⟨.showMessage config.overlapTitle (overlapMessage names), ()⟩]
        (.ok (record.push (.overlapChecked .partlyCovered)))
  | duplicate (names : NameSet .subscription) :
      candidates batch ≠ [] →
      OverlapCourse config batch record
        [⟨.checkOverlap (candidates batch), .ok ⟨.duplicate, names⟩⟩]
        (.error (.aborted (.rejected (duplicateMessage names)) batch
          (record.push (.overlapChecked .duplicate))))

section Course

variable {config : DeskConfig} {wording : Wording} {user : UserId} {mutation : Mutation}
  {batch : List Subscription} {record : Record} {events : List Event}

theorem runs_passOverlap {result : Except Outcome Record} :
    Runs (passOverlap config batch record) events result ↔
      OverlapCourse config batch record events result := by
  have hactive : batch.filter Subscription.isActive = candidates batch := rfl
  unfold passOverlap
  rw [hactive]
  cases hlist : candidates batch with
  | nil =>
      refine runs_done_iff.trans ?_
      constructor
      · rintro ⟨rfl, rfl⟩
        exact .unchecked hlist
      · intro hcourse
        cases hcourse with
        | unchecked => exact ⟨rfl, rfl⟩
        | failed | clear | partlyCovered | duplicate => contradiction
  | cons first rest =>
      have hcandidates : candidates batch ≠ [] := hlist ▸ List.cons_ne_nil first rest
      refine runs_call_bind.trans ?_
      rw [← hlist]
      constructor
      · rintro ⟨answer, rest, rfl, hrest⟩
        rcases answer with fault | ⟨kind, names⟩
        · obtain ⟨outcome, hbreak, rfl⟩ := runs_map.mp hrest
          obtain ⟨reset, rfl, rfl⟩ := runs_breakOff.mp hbreak
          exact .failed fault reset hcandidates
        cases kind with
        | clear =>
            obtain ⟨rfl, rfl⟩ := runs_done_iff.mp hrest
            exact .clear names hcandidates
        | partlyCovered =>
            obtain ⟨answer, rest, rfl, hshown⟩ := runs_call_bind.mp hrest
            obtain ⟨rfl, rfl⟩ := runs_done_iff.mp hshown
            exact .partlyCovered names hcandidates
        | duplicate =>
            obtain ⟨rfl, rfl⟩ := runs_done_iff.mp hrest
            exact .duplicate names hcandidates
      · intro hcourse
        cases hcourse with
        | unchecked hnone => exact absurd hnone hcandidates
        | failed fault reset =>
            exact ⟨_, _, rfl, runs_map.mpr ⟨_, runs_breakOff.mpr ⟨reset, rfl, rfl⟩, rfl⟩⟩
        | clear names => exact ⟨_, _, rfl, .done _⟩
        | partlyCovered names => exact ⟨_, _, rfl, .ask (.done _)⟩
        | duplicate names => exact ⟨_, _, rfl, .done _⟩

end Course

/-! ### Flagging what does not fit -/

inductive FlagCourse (user : UserId) (name : SubscriptionName) :
    List Event → List String → Prop where
  | unreadable (fault : RegistryFault) :
      FlagCourse user name [⟨.registry (.find name), .error fault⟩]
        ["unable to load subscription " ++ name.text ++ ": " ++ fault.message]
  | missing :
      FlagCourse user name [⟨.registry (.find name), .ok none⟩]
        ["subscription " ++ name.text ++ " not found in registry"]
  | flagged (stored : Subscription) :
      FlagCourse user name
        [⟨.registry (.find name), .ok (some stored)⟩,
          ⟨.registry (.update user { stored with unscheduled := true }), .ok ()⟩] []
  | refused (stored : Subscription) (fault : RegistryFault) :
      FlagCourse user name
        [⟨.registry (.find name), .ok (some stored)⟩,
          ⟨.registry (.update user { stored with unscheduled := true }), .error fault⟩]
        ["unable to flag subscription " ++ name.text ++ " unscheduled: " ++ fault.message]

inductive FlagsCourse (user : UserId) :
    List SubscriptionName → List Event → List String → Prop where
  | nil : FlagsCourse user [] [] []
  | cons {name : SubscriptionName} {rest : List SubscriptionName} {flag later : List Event}
      {warnings laterWarnings : List String} (sent : Except NoticeFault Unit) :
      FlagCourse user name flag warnings → FlagsCourse user rest later laterWarnings →
      FlagsCourse user (name :: rest)
        (flag ++ ⟨.notify (.standard .unscheduled user name), sent⟩ :: later)
        (warnings ++ laterWarnings)

section Flags

variable {user : UserId} {record after : Record} {events : List Event}

theorem runs_flagUnscheduled {name : SubscriptionName} :
    Runs (flagUnscheduled user record name) events after ↔
      ∃ warnings, FlagCourse user name events warnings ∧ after = record.warnAll warnings := by
  unfold flagUnscheduled
  rw [runs_call_bind]
  constructor
  · rintro ⟨answer, rest, rfl, hrest⟩
    rcases answer with fault | _ | stored
    · obtain ⟨rfl, rfl⟩ := runs_done_iff.mp hrest
      exact ⟨_, .unreadable fault, rfl⟩
    · obtain ⟨rfl, rfl⟩ := runs_done_iff.mp hrest
      exact ⟨_, .missing, rfl⟩
    · obtain ⟨answer, rest, rfl, hupdated⟩ := runs_call_bind.mp hrest
      rcases answer with fault | ⟨⟩
      · obtain ⟨rfl, rfl⟩ := runs_done_iff.mp hupdated
        exact ⟨_, .refused stored fault, rfl⟩
      · obtain ⟨rfl, rfl⟩ := runs_done_iff.mp hupdated
        exact ⟨[], .flagged stored, (Record.warnAll_nil _).symm⟩
  · rintro ⟨warnings, hcourse, rfl⟩
    cases hcourse with
    | unreadable fault => exact ⟨_, _, rfl, .done _⟩
    | missing => exact ⟨_, _, rfl, .done _⟩
    | flagged stored =>
        rw [Record.warnAll_nil]
        exact ⟨_, _, rfl, .ask (.done _)⟩
    | refused stored fault => exact ⟨_, _, rfl, .ask (.done _)⟩

theorem runs_flagEach {names : List SubscriptionName} :
    Runs (flagEach user names record) events after ↔
      ∃ warnings, FlagsCourse user names events warnings ∧ after = record.warnAll warnings := by
  induction names generalizing record events with
  | nil =>
      refine runs_done_iff.trans ?_
      constructor
      · rintro ⟨rfl, rfl⟩
        exact ⟨[], .nil, (Record.warnAll_nil _).symm⟩
      · rintro ⟨warnings, hcourse, rfl⟩
        cases hcourse
        exact ⟨rfl, record.warnAll_nil⟩
  | cons name rest ih =>
      unfold flagEach
      rw [runs_bind]
      constructor
      · rintro ⟨flag, between, later, hflag, hlater, rfl⟩
        obtain ⟨warnings, hcourse, rfl⟩ := runs_flagUnscheduled.mp hflag
        obtain ⟨told, _, later, htold, hrest, rfl⟩ := runs_bind.mp hlater
        obtain ⟨sent, rfl⟩ := runs_notify.mp htold
        obtain ⟨laterWarnings, hcourses, rfl⟩ := ih.mp hrest
        exact ⟨_, .cons sent hcourse hcourses, record.warnAll_warnAll warnings laterWarnings⟩
      · rintro ⟨warnings, hcourse, rfl⟩
        cases hcourse with
        | @cons name _ flag later warnings laterWarnings sent hflag hlater =>
            have hflagged : Runs (flagUnscheduled user record name) flag
                (record.warnAll warnings) :=
              runs_flagUnscheduled.mpr ⟨_, hflag, rfl⟩
            refine ⟨flag, record.warnAll warnings, _, hflagged, ?_, rfl⟩
            refine runs_bind.mpr ⟨[_], (), later, runs_notify.mpr ⟨sent, rfl⟩, ?_, rfl⟩
            exact ih.mpr ⟨laterWarnings, hlater, (record.warnAll_warnAll _ _).symm⟩

end Flags

theorem FlagsCourse.forall_mem {holds : Event → Prop} {user : UserId}
    {names : List SubscriptionName} {events : List Event} {warnings : List String}
    (hfind : ∀ name answer, holds ⟨.registry (.find name), answer⟩)
    (hupdate : ∀ stored answer, holds ⟨.registry (.update user stored), answer⟩)
    (hnotice : ∀ notice answer, holds ⟨.notify notice, answer⟩)
    (hflags : FlagsCourse user names events warnings) : ∀ event ∈ events, holds event := by
  induction hflags with
  | nil => simp
  | cons sent hflag _ ih =>
      refine List.forall_mem_append.mpr ⟨?_, List.forall_mem_cons.mpr ⟨hnotice _ sent, ih⟩⟩
      cases hflag with
      | unreadable | missing => exact List.forall_mem_singleton.mpr (hfind _ _)
      | flagged | refused =>
          exact List.forall_mem_cons.mpr
            ⟨hfind _ _, List.forall_mem_singleton.mpr (hupdate _ _)⟩

inductive SettlementCourse (user : UserId) (batch : List Subscription) (message : String)
    (record : Record) : List Event → String × Record → Prop where
  | unconfirmed (fault : BandwidthFault) (reset : Except BandwidthFault Unit) :
      SettlementCourse user batch message record
        [⟨.schedule batch, .error fault⟩, ⟨.resetManager, reset⟩]
        (message ++ "\n\n" ++ unconfirmedMessage,
          (record.warn ("schedule not confirmed: " ++ fault.message)).afterReset reset)
  | confirmed (names : NameSet .subscription) {flags : List Event} {warnings : List String} :
      FlagsCourse user names.members flags warnings →
      SettlementCourse user batch message record (⟨.schedule batch, .ok names⟩ :: flags)
        (message ++ unscheduledLines names,
          { (record.push (.scheduled (UInt64.ofNat names.size))).warnAll warnings with
            unscheduledAfterSchedule := names })

theorem runs_settle {user : UserId} {batch : List Subscription} {message : String}
    {record : Record} {events : List Event} {settled : String × Record} :
    Runs (settle user batch message record) events settled ↔
      SettlementCourse user batch message record events settled := by
  unfold settle
  rw [runs_call_bind]
  constructor
  · rintro ⟨answer, rest, rfl, hrest⟩
    rcases answer with fault | names
    · obtain ⟨after, hreset, rfl⟩ := runs_map.mp hrest
      obtain ⟨reset, rfl, rfl⟩ := runs_resetManager.mp hreset
      exact .unconfirmed fault reset
    · obtain ⟨after, hflags, rfl⟩ := runs_map.mp hrest
      obtain ⟨warnings, hcourses, rfl⟩ := runs_flagEach.mp hflags
      exact .confirmed names hcourses
  · intro hcourse
    cases hcourse with
    | unconfirmed fault reset =>
        exact ⟨_, _, rfl, runs_map.mpr ⟨_, runs_resetManager.mpr ⟨reset, rfl, rfl⟩, rfl⟩⟩
    | confirmed names hflags =>
        exact ⟨_, _, rfl, runs_map.mpr ⟨_, runs_flagEach.mpr ⟨_, hflags, rfl⟩, rfl⟩⟩

theorem SettlementCourse.forall_mem {holds : Event → Prop} {user : UserId}
    {batch : List Subscription} {message : String} {record : Record} {events : List Event}
    {settled : String × Record} (hschedule : ∀ answer, holds ⟨.schedule batch, answer⟩)
    (hreset : ∀ answer, holds ⟨.resetManager, answer⟩)
    (hfind : ∀ name answer, holds ⟨.registry (.find name), answer⟩)
    (hupdate : ∀ stored answer, holds ⟨.registry (.update user stored), answer⟩)
    (hnotice : ∀ notice answer, holds ⟨.notify notice, answer⟩)
    (hsettle : SettlementCourse user batch message record events settled) :
    ∀ event ∈ events, holds event := by
  cases hsettle with
  | unconfirmed fault reset =>
      exact List.forall_mem_cons.mpr ⟨hschedule _, List.forall_mem_singleton.mpr (hreset _)⟩
  | confirmed names hflags =>
      exact List.forall_mem_cons.mpr ⟨hschedule _, hflags.forall_mem hfind hupdate hnotice⟩

/-! ### The change itself -/

inductive ExecutionCourse (mutation : Mutation) (user : UserId) (batch : List Subscription)
    (record : Record) : List Event → Except ServiceFault (String × Record) → Prop where
  | executed {change : List Event} {message : String} :
      Runs (mutation.run user batch) change (.ok message) →
      ExecutionCourse mutation user batch record change
        (.ok (message, record.push .actionExecuted))
  | refused {change : List Event} {fault : RegistryFault} (reset : Except BandwidthFault Unit) :
      Runs (mutation.run user batch) change (.error fault) →
      ExecutionCourse mutation user batch record (change ++ [⟨.resetManager, reset⟩])
        (.error (.registry fault))

theorem runs_execute {mutation : Mutation} {user : UserId} {batch : List Subscription}
    {record : Record} {events : List Event} {result : Except ServiceFault (String × Record)} :
    Runs (execute mutation user batch record) events result ↔
      ExecutionCourse mutation user batch record events result := by
  unfold execute
  rw [runs_bind]
  constructor
  · rintro ⟨change, answer, rest, hchange, hrest, rfl⟩
    cases answer with
    | error fault =>
        obtain ⟨after, hreset, rfl⟩ := runs_map.mp hrest
        obtain ⟨reset, rfl, rfl⟩ := runs_resetManager.mp hreset
        exact .refused reset hchange
    | ok message =>
        obtain ⟨rfl, rfl⟩ := runs_done_iff.mp hrest
        rw [List.append_nil]
        exact .executed hchange
  · intro hcourse
    cases hcourse with
    | executed hchange => exact ⟨_, _, [], hchange, .done _, (List.append_nil _).symm⟩
    | refused reset hchange =>
        have hreset : Runs (resetManager record) [⟨.resetManager, reset⟩]
            (record.afterReset reset) :=
          runs_resetManager.mpr ⟨reset, rfl, rfl⟩
        exact ⟨_, _, _, hchange, runs_map.mpr ⟨_, hreset, rfl⟩, rfl⟩

/-! ### The proposal and what comes of it -/

def question (config : DeskConfig) (batch : List Subscription) (proposal : Proposal) :
    PromptConfiguration :=
  .ofProposal config.promptTitle batch proposal config.defaultMaximumLatency

def choices (config : DeskConfig) (wording : Wording) (batch : List Subscription)
    (proposal : Proposal) : List Offer :=
  (question config batch proposal).offers wording proposal

def latencyNotices (user : UserId) (plan : Plan) : List Notice :=
  plan.latencyChange?.toList.map fun (name, before, after) =>
    .latencyChanged user name before after

def managerOpened (names : Option (NameSet .subscription)) : List Event :=
  names.toList.map fun names => ⟨.openManager names, ()⟩

/-- What a change that was carried out comes to, if nothing else is left to do. -/
def concluded (batch : List Subscription) :
    Except ServiceFault (String × Record) → Except ServiceFault Outcome
  | .ok (message, record) => .ok ⟨.success message, batch, record⟩
  | .error fault => .error fault

section Proposal

variable (config : DeskConfig) (wording : Wording) (user : UserId) (mutation : Mutation)
  (batch : List Subscription) (record : Record)

inductive ForceCourse (plan : Plan) : List Event → Except ServiceFault Outcome → Prop where
  | settled {told change settlement : List Event} {message : String} {executed : Record}
      {settled : String × Record} :
      told.map Event.query = (latencyNotices user plan).map Query.notify →
      ExecutionCourse mutation user (plan.applyTo batch) (record.note plan) change
        (.ok (message, executed)) →
      SettlementCourse user (plan.applyTo batch) message executed settlement settled →
      ForceCourse plan (told ++ (change ++ settlement))
        (concluded (plan.applyTo batch) (.ok settled))
  | refused {told change : List Event} {fault : ServiceFault} :
      told.map Event.query = (latencyNotices user plan).map Query.notify →
      ExecutionCourse mutation user (plan.applyTo batch) (record.note plan) change
        (.error fault) →
      ForceCourse plan (told ++ change) (.error fault)

inductive ProposalCourse : List Event → Except ServiceFault Outcome → Prop where
  | failed (fault : BandwidthFault) (reset : Except BandwidthFault Unit) :
      ProposalCourse [⟨.propose batch, .error fault⟩, ⟨.resetManager, reset⟩]
        (.ok (.aborted .failure batch (record.afterReset reset)))
  | fits {proposal : Proposal} {change : List Event}
      {executed : Except ServiceFault (String × Record)} :
      proposal.hasUnscheduled = false →
      ExecutionCourse mutation user batch (record.proposed proposal) change executed →
      ProposalCourse (⟨.propose batch, .ok proposal⟩ :: change) (concluded batch executed)
  | abandoned {proposal : Proposal} {decision : Decision}
      {names : Option (NameSet .subscription)} :
      proposal.hasUnscheduled = true →
      decision.resolve batch proposal (question config batch proposal) = .abort names →
      ProposalCourse
        (⟨.propose batch, .ok proposal⟩ ::
          ⟨.prompt (question config batch proposal) (choices config wording batch proposal),
            decision⟩ :: managerOpened names)
        (.ok (.aborted .abortEditing batch
          (noteDecision (record.proposed proposal) (choices config wording batch proposal)
            decision)))
  | forced {proposal : Proposal} {decision : Decision} {plan : Plan} {change : List Event}
      {result : Except ServiceFault Outcome} :
      proposal.hasUnscheduled = true →
      decision.resolve batch proposal (question config batch proposal) = .apply plan →
      ForceCourse user mutation batch
        (noteDecision (record.proposed proposal) (choices config wording batch proposal) decision)
        plan change result →
      ProposalCourse
        (⟨.propose batch, .ok proposal⟩ ::
          ⟨.prompt (question config batch proposal) (choices config wording batch proposal),
            decision⟩ :: change)
        result

variable {config wording user mutation batch record}
variable {events : List Event} {result : Except ServiceFault Outcome}

theorem runs_notifyLatency {plan : Plan} :
    Runs (notifyLatency user plan) events () ↔
      events.map Event.query = (latencyNotices user plan).map Query.notify := by
  unfold notifyLatency latencyNotices
  cases plan.latencyChange? with
  | none => simp
  | some change =>
      refine runs_notify.trans ?_
      constructor
      · rintro ⟨answer, rfl⟩
        rfl
      · intro hqueries
        obtain ⟨⟨query, answer⟩, later, rfl, rfl, hlater⟩ := List.map_eq_cons_iff.mp hqueries
        rw [List.map_eq_nil_iff.mp hlater]
        exact ⟨answer, rfl⟩

theorem runs_abandon {names : Option (NameSet .subscription)} {outcome : Outcome} :
    Runs (abandon batch names record) events outcome ↔
      events = managerOpened names ∧ outcome = .aborted .abortEditing batch record := by
  cases names with
  | none => exact runs_done_iff
  | some names =>
      refine runs_call_bind.trans ?_
      constructor
      · rintro ⟨answer, rest, rfl, hrest⟩
        obtain ⟨rfl, rfl⟩ := runs_done_iff.mp hrest
        exact ⟨rfl, rfl⟩
      · rintro ⟨rfl, rfl⟩
        exact ⟨(), [], rfl, .done _⟩

theorem runs_force {plan : Plan} :
    Runs (force user mutation batch plan record) events result ↔
      ForceCourse user mutation batch record plan events result := by
  unfold force
  rw [runs_bind]
  constructor
  · rintro ⟨told, _, rest, htold, hrest, rfl⟩
    obtain ⟨change, executed, settlement, hexecute, hafter, rfl⟩ := runs_bind.mp hrest
    rcases executed with fault | ⟨message, executed⟩
    · obtain ⟨rfl, rfl⟩ := runs_done_iff.mp hafter
      rw [List.append_nil]
      exact .refused (runs_notifyLatency.mp htold) (runs_execute.mp hexecute)
    · obtain ⟨settled, hsettle, rfl⟩ := runs_map.mp hafter
      exact .settled (runs_notifyLatency.mp htold) (runs_execute.mp hexecute)
        (runs_settle.mp hsettle)
  · intro hcourse
    cases hcourse with
    | @settled told change settlement message executed settled htold hexecute hsettle =>
        refine ⟨told, (), _, runs_notifyLatency.mpr htold, ?_, rfl⟩
        refine runs_bind.mpr ⟨change, _, settlement, runs_execute.mpr hexecute, ?_, rfl⟩
        exact runs_map.mpr ⟨settled, runs_settle.mpr hsettle, rfl⟩
    | @refused told change fault htold hexecute =>
        refine ⟨told, (), _, runs_notifyLatency.mpr htold, ?_, rfl⟩
        exact runs_bind.mpr ⟨change, _, [], runs_execute.mpr hexecute, .done _,
          (List.append_nil _).symm⟩

theorem runs_settleWithUser {proposal : Proposal} :
    Runs (settleWithUser config wording user mutation batch proposal record) events result ↔
      ∃ decision rest,
        events = ⟨.prompt (question config batch proposal) (choices config wording batch proposal),
          decision⟩ :: rest ∧
        match decision.resolve batch proposal (question config batch proposal) with
        | .abort names =>
            rest = managerOpened names ∧ result = .ok (.aborted .abortEditing batch
              (noteDecision record (choices config wording batch proposal) decision))
        | .apply plan =>
            ForceCourse user mutation batch
              (noteDecision record (choices config wording batch proposal) decision) plan rest
              result := by
  refine runs_call_bind.trans (exists_congr fun decision => exists_congr fun rest =>
    and_congr_right fun _ => ?_)
  change Runs (match decision.resolve batch proposal (question config batch proposal) with
    | .abort names => _
    | .apply plan => _) rest result ↔ _
  cases decision.resolve batch proposal (question config batch proposal) with
  | abort names =>
      refine runs_map.trans ?_
      constructor
      · rintro ⟨outcome, habandon, rfl⟩
        obtain ⟨rfl, rfl⟩ := runs_abandon.mp habandon
        exact ⟨rfl, rfl⟩
      · rintro ⟨rfl, rfl⟩
        exact ⟨_, runs_abandon.mpr ⟨rfl, rfl⟩, rfl⟩
  | apply plan => exact runs_force

theorem runs_propose :
    Runs (propose config wording user mutation batch record) events result ↔
      ProposalCourse config wording user mutation batch record events result := by
  unfold propose
  rw [runs_call_bind]
  constructor
  · rintro ⟨answer, rest, rfl, hrest⟩
    rcases answer with fault | proposal
    · obtain ⟨outcome, hbreak, rfl⟩ := runs_map.mp hrest
      obtain ⟨reset, rfl, rfl⟩ := runs_breakOff.mp hbreak
      exact .failed fault reset
    cases hfits : proposal.hasUnscheduled with
    | false =>
        simp only [hfits, Bool.false_eq_true, ↓reduceIte] at hrest
        obtain ⟨change, executed, after, hexecute, hafter, rfl⟩ := runs_bind.mp hrest
        have hcourse : ProposalCourse config wording user mutation batch record
            (⟨.propose batch, .ok proposal⟩ :: change) (concluded batch executed) :=
          .fits hfits (runs_execute.mp hexecute)
        rcases executed with fault | ⟨message, executed⟩ <;>
          obtain ⟨rfl, rfl⟩ := runs_done_iff.mp hafter <;> rwa [List.append_nil]
    | true =>
        simp only [hfits, ↓reduceIte] at hrest
        obtain ⟨decision, rest, rfl, hdecided⟩ := runs_settleWithUser.mp hrest
        cases hresolve : decision.resolve batch proposal (question config batch proposal) with
        | abort names =>
            rw [hresolve] at hdecided
            obtain ⟨rfl, rfl⟩ := hdecided
            exact .abandoned hfits hresolve
        | apply plan =>
            rw [hresolve] at hdecided
            exact .forced hfits hresolve hdecided
  · intro hcourse
    cases hcourse with
    | failed fault reset =>
        exact ⟨_, _, rfl, runs_map.mpr ⟨_, runs_breakOff.mpr ⟨reset, rfl, rfl⟩, rfl⟩⟩
    | @fits proposal change executed hfits hexecute =>
        refine ⟨.ok proposal, change, rfl, ?_⟩
        simp only [hfits, Bool.false_eq_true, ↓reduceIte]
        refine runs_bind.mpr ⟨change, executed, [], runs_execute.mpr hexecute, ?_,
          (List.append_nil _).symm⟩
        rcases executed with fault | ⟨message, executed⟩ <;> exact .done _
    | @abandoned proposal decision names hunfit hresolve =>
        refine ⟨.ok proposal, _, rfl, ?_⟩
        simp only [hunfit, ↓reduceIte]
        refine runs_settleWithUser.mpr ⟨decision, _, rfl, ?_⟩
        rw [hresolve]
        exact ⟨rfl, rfl⟩
    | @forced proposal decision plan change result hunfit hresolve hforce =>
        refine ⟨.ok proposal, _, rfl, ?_⟩
        simp only [hunfit, ↓reduceIte]
        refine runs_settleWithUser.mpr ⟨decision, _, rfl, ?_⟩
        rw [hresolve]
        exact hforce

end Proposal

/-- A forced change that succeeds is told of, made, and settled. -/
theorem ForceCourse.of_ok {user : UserId} {mutation : Mutation} {batch : List Subscription}
    {record : Record} {plan : Plan} {events : List Event} {outcome : Outcome}
    (hforce : ForceCourse user mutation batch record plan events (.ok outcome)) :
    ∃ told change settlement message executed settled,
      events = told ++ (change ++ settlement) ∧
      told.map Event.query = (latencyNotices user plan).map Query.notify ∧
      ExecutionCourse mutation user (plan.applyTo batch) (record.note plan) change
        (.ok (message, executed)) ∧
      SettlementCourse user (plan.applyTo batch) message executed settlement settled ∧
      outcome = ⟨.success settled.1, plan.applyTo batch, settled.2⟩ := by
  generalize hresult : (Except.ok outcome : Except ServiceFault Outcome) = result at hforce
  cases hforce with
  | settled htold hexecute hsettle =>
      cases hresult
      exact ⟨_, _, _, _, _, _, rfl, htold, hexecute, hsettle, rfl⟩
  | refused => contradiction

theorem concluded_eq_ok_iff {batch : List Subscription} {outcome : Outcome}
    {executed : Except ServiceFault (String × Record)} :
    concluded batch executed = .ok outcome ↔
      ∃ message record, executed = .ok (message, record) ∧
        outcome = ⟨.success message, batch, record⟩ := by
  rcases executed with fault | ⟨message, record⟩
  · constructor
    · intro hok
      contradiction
    · rintro ⟨message, record, hok, -⟩
      contradiction
  · constructor
    · intro hok
      exact ⟨message, record, rfl, (Except.ok.inj hok).symm⟩
    · rintro ⟨message, record, hok, rfl⟩
      cases hok
      rfl

/-! ### The whole negotiation -/

/-- A batch without the marks that earlier negotiations have left on it. -/
def cleared (submitted : List Subscription) : List Subscription :=
  submitted.map fun subscription => { subscription with unscheduled := false }

def openingRecord (submitted : List Subscription) : Record :=
  { Record.empty with changes := clearedMarks submitted }

inductive Course (config : DeskConfig) (wording : Wording) (user : UserId) (mutation : Mutation)
    (submitted : List Subscription) : List Event → Except ServiceFault Outcome → Prop where
  | empty : submitted = [] → Course config wording user mutation submitted [] (.ok .noSubscriptions)
  | stopped {checked : List Event} {outcome : Outcome} :
      submitted ≠ [] →
      OverlapCourse config (cleared submitted) (openingRecord submitted) checked (.error outcome) →
      Course config wording user mutation submitted checked (.ok outcome)
  | passed {checked proposed : List Event} {record : Record}
      {result : Except ServiceFault Outcome} :
      submitted ≠ [] →
      OverlapCourse config (cleared submitted) (openingRecord submitted) checked (.ok record) →
      ProposalCourse config wording user mutation (cleared submitted) record proposed result →
      Course config wording user mutation submitted (checked ++ proposed) result

theorem runs_run {config : DeskConfig} {wording : Wording} {user : UserId} {mutation : Mutation}
    {submitted : List Subscription} {events : List Event} {result : Except ServiceFault Outcome} :
    Runs (run config wording user mutation submitted) events result ↔
      Course config wording user mutation submitted events result := by
  cases submitted with
  | nil =>
      refine runs_done_iff.trans ?_
      constructor
      · rintro ⟨rfl, rfl⟩
        exact .empty rfl
      · intro hcourse
        cases hcourse with
        | empty => exact ⟨rfl, rfl⟩
        | stopped | passed => contradiction
  | cons first rest =>
      have hsubmitted : first :: rest ≠ [] := List.cons_ne_nil first rest
      refine runs_bind.trans ?_
      constructor
      · rintro ⟨checked, passed, proposed, hcheck, hrest, rfl⟩
        rcases passed with outcome | record
        · obtain ⟨rfl, rfl⟩ := runs_done_iff.mp hrest
          rw [List.append_nil]
          exact .stopped hsubmitted (runs_passOverlap.mp hcheck)
        · exact .passed hsubmitted (runs_passOverlap.mp hcheck) (runs_propose.mp hrest)
      · intro hcourse
        cases hcourse with
        | empty hnil => exact absurd hnil hsubmitted
        | stopped _ hcheck =>
            exact ⟨_, _, [], runs_passOverlap.mpr hcheck, .done _, (List.append_nil _).symm⟩
        | passed _ hcheck hpropose =>
            exact ⟨_, _, _, runs_passOverlap.mpr hcheck, runs_propose.mpr hpropose, rfl⟩

end Negotiation

end SubscriptionDesk

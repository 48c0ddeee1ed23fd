import SubscriptionDesk.Proofs.DecisionPlans
import SubscriptionDesk.Proofs.DigitRows
import SubscriptionDesk.Proofs.Endings
import SubscriptionDesk.Proofs.RegistryEffect

/-!
# What is told of a change

The desk tells of a change at three places. A latency that it raises is told of before the change is
made, the names that the schedule leaves off are told of while they are flagged, and the batch is
told of at the end. Only the first of these comes before it is known whether the change goes
through. So nothing is told of a change that is not made, but for the latency that the user has
agreed to.
-/

namespace SubscriptionDesk

def Query.notice? : Query → Option Notice
  | .notify notice => some notice
  | _ => none

def sent (events : List Event) : List Notice := events.filterMap fun event => event.query.notice?

def Event.leftOff : Event → List SubscriptionName
  | ⟨.schedule _, .ok names⟩ => names.members
  | _ => []

/-- The names that the bandwidth manager leaves off the schedule. -/
def leftOff (events : List Event) : List SubscriptionName := events.flatMap Event.leftOff

section Calls

variable {first second events : List Event}

theorem sent_append : sent (first ++ second) = sent first ++ sent second := List.filterMap_append

theorem sent_eq_nil (hnone : ∀ event ∈ events, event.query.notice? = none) : sent events = [] :=
  List.filterMap_eq_nil_iff.mpr hnone

theorem sent_of_notices {notices : List Notice}
    (htold : events.map Event.query = notices.map Query.notify) : sent events = notices := by
  have hmap : sent events = (events.map Event.query).filterMap Query.notice? := by
    rw [List.filterMap_map]
    rfl
  calc sent events = (events.map Event.query).filterMap Query.notice? := hmap
    _ = (notices.map Query.notify).filterMap Query.notice? := by rw [htold]
    _ = notices.filterMap some := List.filterMap_map
    _ = notices := List.filterMap_some

theorem leftOff_append : leftOff (first ++ second) = leftOff first ++ leftOff second :=
  List.flatMap_append

theorem leftOff_eq_nil (hnone : ∀ event ∈ events, event.leftOff = []) : leftOff events = [] :=
  List.flatMap_eq_nil_iff.mpr hnone

theorem Query.notice?_of_prepares {query : Query} (hprepares : query.prepares = true) :
    query.notice? = none := by
  cases query with
  | notify => contradiction
  | _ => rfl

theorem Event.leftOff_of_prepares {event : Event} (hprepares : event.query.prepares = true) :
    event.leftOff = [] := by
  obtain ⟨query, answer⟩ := event
  cases query with
  | schedule => contradiction
  | _ => rfl

theorem Preparatory.sent_eq (hevents : Preparatory events) : sent events = [] :=
  sent_eq_nil fun event hevent => Query.notice?_of_prepares (hevents event hevent)

theorem Preparatory.leftOff_eq (hevents : Preparatory events) : leftOff events = [] :=
  leftOff_eq_nil fun event hevent => Event.leftOff_of_prepares (hevents event hevent)

end Calls

/-! ### Latencies and the changes that set them -/

def Change.latencyChange? : Change → Option (SubscriptionName × UInt32 × UInt32)
  | .latencyChanged name before after => some (name, before, after)
  | _ => none

/-- The notices of latencies that were raised: whose, from what, to what. -/
def latencyNews (user : UserId) (raised : List (SubscriptionName × UInt32 × UInt32)) :
    List Notice :=
  raised.map fun (name, before, after) =>
    { kind := .unscheduled
      user := user
      subscription := name
      message := "The latency of subscription " ++ name.text ++ " was changed from " ++
        toString before ++ " to " ++ toString after ++ " minutes so that it can be scheduled." }

/-- A notice of a raised latency is in words, yet it tells both latencies. -/
theorem latencyNews_injective {user : UserId} : Function.Injective (latencyNews user) := by
  refine List.map_injective_iff.mpr ?_
  rintro ⟨name, before, after⟩ ⟨other, earlier, later⟩ hsame
  obtain ⟨-, -, rfl, hmessage⟩ := Notice.mk.inj hsame
  have hdigits (latency : UInt32) : (toString latency).toList = Nat.toDigits 10 latency.toNat := by
    change (Nat.repr latency.toNat).toList = _
    rw [Nat.toList_repr]
  have hwords := congrArg String.toList hmessage
  simp only [String.toList_append, hdigits, List.append_assoc, List.append_cancel_left_eq] at hwords
  obtain ⟨hbefore, hrest⟩ := Text.toDigits_append_blank_inj hwords
  obtain ⟨hafter, -⟩ := Text.toDigits_append_blank_inj (List.append_cancel_left hrest)
  rw [UInt32.toNat_inj.mp hbefore, UInt32.toNat_inj.mp hafter]

def leftOffNews (user : UserId) (names : List SubscriptionName) : List Notice :=
  names.map fun name =>
    { kind := .unscheduled
      user := user
      subscription := name
      message := "Subscription " ++ name.text ++ " is unscheduled." }

def latencyChanges (changes : List Change) : List (SubscriptionName × UInt32 × UInt32) :=
  changes.filterMap Change.latencyChange?

theorem latencyChanges_append {first second : List Change} :
    latencyChanges (first ++ second) = latencyChanges first ++ latencyChanges second :=
  List.filterMap_append

def latencyAfter (changes : List Change) (subscription : Subscription) : UInt32 :=
  (latencyChanges changes).foldl
    (fun latency (name, _, after) => if subscription.name = name then after else latency)
    subscription.latency

section Latency

variable {plan : Plan} {subscription : Subscription} {submitted : List Subscription}

theorem Plan.latencyChange?_eq : plan.latencyChange? = (latencyChanges plan.changes).head? := by
  unfold latencyChange? latencyChanges
  rw [List.head?_filterMap]
  rfl

theorem Change.latency_applyTo {change : Change} :
    (change.applyTo subscription).latency = latencyAfter [change] subscription := by
  unfold applyTo
  cases change with
  | latencyChanged name before after =>
      change _ = if subscription.name = name then after else subscription.latency
      split
      · rename_i hname
        exact (if_pos hname).symm
      · rename_i hname
        exact (if_neg hname).symm
  | _ => split <;> rfl

theorem latencyAfter_cons {change : Change} {rest : List Change} :
    latencyAfter (change :: rest) subscription =
      latencyAfter rest (change.applyTo subscription) := by
  -- The rest goes by name, and no change touches a name.
  rw [← List.singleton_append]
  unfold latencyAfter
  rw [latencyChanges_append, List.foldl_append, change.name_applyTo, change.latency_applyTo]
  rfl

theorem Plan.latency_revise :
    (plan.revise subscription).latency = latencyAfter plan.changes subscription := by
  obtain ⟨changes, warnings⟩ := plan
  induction changes generalizing subscription with
  | nil => rfl
  | cons change rest ih =>
      rw [latencyAfter_cons]
      exact ih

theorem map_latency_applyTo :
    (plan.applyTo (Negotiation.cleared submitted)).map Subscription.latency =
      submitted.map (latencyAfter plan.changes) := by
  rw [Plan.applyTo_eq_map, Negotiation.cleared, List.map_map, List.map_map]
  exact List.map_congr_left fun _ _ => Plan.latency_revise

theorem latencyChanges_clearedMarks : latencyChanges (Negotiation.clearedMarks submitted) = [] := by
  simp [latencyChanges, Negotiation.clearedMarks, Change.latencyChange?]

theorem latencyChanges_leaveUnscheduled :
    latencyChanges (Plan.leaveUnscheduled submitted).changes = [] := by
  simp [latencyChanges, Plan.leaveUnscheduled, Change.latencyChange?]

theorem latencyChanges_leaveDeactivated :
    latencyChanges (Plan.leaveDeactivated submitted).changes = [] := by
  refine List.filterMap_eq_nil_iff.mpr fun change hchange => ?_
  obtain ⟨subscription, -, hmem⟩ := List.mem_flatMap.mp hchange
  simp only [List.mem_cons, List.not_mem_nil, or_false] at hmem
  rcases hmem with rfl | rfl <;> rfl

end Latency

/-- What became of the latencies of a batch, and which latency changes are told of that. -/
inductive Latencies (batch changed : List Subscription) :
    List (SubscriptionName × UInt32 × UInt32) → Prop where
  | kept :
      changed.map Subscription.latency = batch.map Subscription.latency →
      Latencies batch changed []
  | raised {first : Subscription} {required : UInt32} :
      batch.head? = some first → first.latency < required →
      changed.map Subscription.latency = batch.map (fun subscription =>
        if subscription.name = first.name then required else subscription.latency) →
      Latencies batch changed [(first.name, first.latency, required)]

/-- What is told of a change that was made: the latency if one was raised, the names that the
schedule leaves off, and the batch. -/
structure Announcement (user : UserId) (batch : List Subscription)
    (notices : List Subscription → List Notice) (events : List Event) (outcome : Outcome) :
    Prop where
  sent : sent events =
    latencyNews user (latencyChanges outcome.record.changes) ++ leftOffNews user (leftOff events) ++
      notices outcome.subscriptions
  latencies : Latencies batch outcome.subscriptions (latencyChanges outcome.record.changes)
  /-- The set of an answer lists its names in ascending order, each once. -/
  leftOff : leftOff events = outcome.record.unscheduledAfterSchedule.members

inductive Announced (user : UserId) (batch : List Subscription)
    (notices : List Subscription → List Notice) :
    List Event → Except ServiceFault Outcome → Prop where
  | unmade {events : List Event} {outcome : Outcome} :
      outcome.record.actionExecuted = false → sent events = [] →
      Announced user batch notices events (.ok outcome)
  | made {events : List Event} {outcome : Outcome} :
      outcome.record.actionExecuted = true → Announcement user batch notices events outcome →
      Announced user batch notices events (.ok outcome)
  | refused {events : List Event} {fault : ServiceFault} :
      .increaseLatency ∉ decisions events → sent events = [] →
      Announced user batch notices events (.error fault)
  | refusedRaise {events : List Event} {fault : ServiceFault} {first : Subscription}
      {proposal : Proposal} :
      .increaseLatency ∈ decisions events →
      batch.head? = some first → ⟨.propose (Negotiation.cleared batch), .ok proposal⟩ ∈ events →
      first.latency < proposal.requiredLatency →
      sent events =
        latencyNews user [(first.name, first.latency, proposal.requiredLatency)] →
      Announced user batch notices events (.error fault)

theorem Announced.prepend {user : UserId} {batch : List Subscription}
    {notices : List Subscription → List Notice} {before events : List Event}
    {result : Except ServiceFault Outcome} (hsent : sent before = [])
    (hleftOff : leftOff before = []) (hdecisions : decisions before = [])
    (hannounced : Announced user batch notices events result) :
    Announced user batch notices (before ++ events) result := by
  have hsame : sent (before ++ events) = sent events := by
    rw [sent_append, hsent, List.nil_append]
  have hdecided : decisions (before ++ events) = decisions events := by
    rw [decisions_append, hdecisions, List.nil_append]
  cases hannounced with
  | unmade hunmade hquiet => exact .unmade hunmade (hsame.trans hquiet)
  | made hmade hannouncement =>
      have hnames : leftOff (before ++ events) = leftOff events := by
        rw [leftOff_append, hleftOff, List.nil_append]
      refine .made hmade ⟨?_, hannouncement.latencies, hnames.trans hannouncement.leftOff⟩
      rw [hsame, hnames, hannouncement.sent]
  | refused hunraised hquiet => exact .refused (hdecided ▸ hunraised) (hsame.trans hquiet)
  | refusedRaise hraised hfirst hproposed hrequired htold =>
      exact .refusedRaise (hdecided ▸ hraised) hfirst (List.mem_append_right before hproposed)
        hrequired (hsame.trans htold)

namespace Negotiation

variable {config : DeskConfig} {user : UserId} {mutation : Mutation}
  {submitted batch : List Subscription} {before events : List Event} {plan : Plan}

/-! ### The latency that a plan raises -/

inductive Raise (submitted : List Subscription) (before : List Event) (plan : Plan) : Prop where
  | none :
      .increaseLatency ∉ decisions before → latencyChanges plan.changes = [] →
      Raise submitted before plan
  | first {first : Subscription} {proposal : Proposal} :
      .increaseLatency ∈ decisions before →
      submitted.head? = some first → ⟨.propose (cleared submitted), .ok proposal⟩ ∈ before →
      first.latency < proposal.requiredLatency →
      latencyChanges plan.changes = [(first.name, first.latency, proposal.requiredLatency)] →
      Raise submitted before plan

theorem latencyInQuestion_question {proposal : Proposal} :
    (question config batch proposal).latencyInQuestion proposal = proposal.requiredLatency :=
  PromptConfiguration.latencyInQuestion_ofProposal

theorem Chosen.raise (hchosen : Chosen config (cleared submitted) before plan) :
    Raise submitted before plan := by
  cases hchosen with
  | unasked hunasked => exact .none (by simp [hunasked]) rfl
  | @decided proposal decision plan hsome hproposed hdecided hresolve =>
      cases decision with
      | cancel | editSubscriptions => contradiction
      | increaseLatency =>
          cases submitted with
          | nil => contradiction
          | cons first rest =>
              unfold Decision.resolve at hresolve
              rw [latencyInQuestion_question] at hresolve
              obtain ⟨hrequired, rfl⟩ := Resolution.ofLatency_eq_apply hresolve
              exact .first (by simp [hdecided]) rfl hproposed hrequired rfl
      | forceApplyDeactivated =>
          cases hresolve
          exact .none (by simp [hdecided]) latencyChanges_leaveDeactivated
      | forceApplyUnscheduled =>
          cases hresolve
          exact .none (by simp [hdecided]) latencyChanges_leaveUnscheduled

theorem Raise.latencyNotices_eq (hraise : Raise submitted before plan) :
    latencyNotices user plan = latencyNews user (latencyChanges plan.changes) := by
  unfold latencyNotices
  rw [Plan.latencyChange?_eq]
  cases hraise with
  | none _ hchanges | first _ _ _ _ hchanges =>
      rw [hchanges]
      rfl

theorem Raise.latencies (hraise : Raise submitted before plan) :
    Latencies submitted (plan.applyTo (cleared submitted)) (latencyChanges plan.changes) := by
  have hlatencies : (plan.applyTo (cleared submitted)).map Subscription.latency =
      submitted.map (latencyAfter plan.changes) := map_latency_applyTo
  unfold latencyAfter at hlatencies
  cases hraise with
  | none _ hchanges =>
      rw [hchanges] at hlatencies ⊢
      exact .kept hlatencies
  | first _ hfirst _ hrequired hchanges =>
      rw [hchanges] at hlatencies ⊢
      exact .raised hfirst hrequired hlatencies

/-! ### The parts of a negotiation -/

theorem MutationCourse.sent_eq {answer : Except RegistryFault String}
    (hmutation : MutationCourse user batch mutation events answer) : sent events = [] :=
  sent_eq_nil (hmutation.forall_mem (fun _ _ => rfl) (fun _ => rfl) fun _ => rfl)

theorem MutationCourse.leftOff_eq {answer : Except RegistryFault String}
    (hmutation : MutationCourse user batch mutation events answer) : leftOff events = [] :=
  leftOff_eq_nil (hmutation.forall_mem (fun _ _ => rfl) (fun _ => rfl) fun _ => rfl)

/-- Each name is told of once, also when its subscription cannot be flagged. -/
theorem FlagsCourse.sent_eq {names : List SubscriptionName} {warnings : List String}
    (hflags : FlagsCourse user names events warnings) :
    sent events = leftOffNews user names := by
  induction hflags with
  | nil => rfl
  | @cons name rest flag later _ _ told hflag _ ih =>
      have hquiet : sent flag = [] := by
        cases hflag <;> rfl
      rw [sent_append, hquiet, List.nil_append]
      exact congrArg (Notice.standard .unscheduled user name :: ·) ih

theorem Settlement.sent_eq {names : NameSet .subscription}
    (hsettle : Settlement user batch events names) :
    sent events = leftOffNews user names.members := by
  cases hsettle with
  | unneeded | unconfirmed => rfl
  | confirmed names hflags => exact hflags.sent_eq

theorem Settlement.leftOff_eq {names : NameSet .subscription}
    (hsettle : Settlement user batch events names) : leftOff events = names.members := by
  cases hsettle with
  | unneeded | unconfirmed => rfl
  | @confirmed names flags warnings hflags =>
      have hnone : leftOff flags = [] :=
        leftOff_eq_nil (hflags.forall_mem (fun _ _ => rfl) (fun _ _ => rfl) fun _ _ => rfl)
      change names.members ++ leftOff flags = names.members
      rw [hnone, List.append_nil]

section Change

variable {told change rest : List Event} {answer : Except RegistryFault String}

theorem sent_of_change (hbefore : Preparatory before)
    (htold : told.map Event.query = (latencyNotices user plan).map Query.notify)
    (hmutation : MutationCourse user batch mutation change answer) :
    sent (before ++ (told ++ (change ++ rest))) = latencyNotices user plan ++ sent rest := by
  rw [sent_append, sent_append, sent_append, hbefore.sent_eq, sent_of_notices htold,
    hmutation.sent_eq]
  rfl

theorem leftOff_of_change (hbefore : Preparatory before)
    (htold : told.map Event.query = (latencyNotices user plan).map Query.notify)
    (hmutation : MutationCourse user batch mutation change answer) :
    leftOff (before ++ (told ++ (change ++ rest))) = leftOff rest := by
  have hnotices := leftOff_eq_nil (forall_of_notices (fun _ _ => rfl) htold)
  rw [leftOff_append, leftOff_append, leftOff_append, hbefore.leftOff_eq, hnotices,
    hmutation.leftOff_eq]
  rfl

theorem decisions_of_change
    (htold : told.map Event.query = (latencyNotices user plan).map Query.notify)
    (hmutation : MutationCourse user batch mutation change answer) :
    decisions (before ++ (told ++ (change ++ rest))) = decisions before ++ decisions rest := by
  have hnotices := decisions_eq_nil (forall_of_notices (fun _ _ => rfl) htold)
  rw [decisions_append, decisions_append, decisions_append, hnotices, hmutation.decisions_eq]
  rfl

end Change

theorem Ending.announced {result : Except ServiceFault Outcome}
    (hending : Ending config user mutation submitted events result) :
    Announced user submitted (fun _ => []) events result := by
  cases hending with
  | leaves hquiet _ _ hstanding => exact .unmade (congrArg Prod.fst hstanding) hquiet.sent_eq
  | @makes before told change after plan message outcome names hbefore hchosen htold hmutation
      hsettle hbatch hchanges hstanding =>
      have hraise := hchosen.raise
      have hraised : latencyChanges outcome.record.changes = latencyChanges plan.changes := by
        rw [hchanges, latencyChanges_append, latencyChanges_clearedMarks, List.nil_append]
      have hleftOff : leftOff (before ++ (told ++ (change ++ after))) = names.members :=
        (leftOff_of_change hbefore htold hmutation).trans hsettle.leftOff_eq
      have hrecorded : outcome.record.unscheduledAfterSchedule = names :=
        congrArg Prod.snd hstanding
      refine .made (congrArg Prod.fst hstanding) ⟨?_, ?_, ?_⟩
      · rw [sent_of_change hbefore htold hmutation, hsettle.sent_eq, hleftOff, hraised,
          hraise.latencyNotices_eq, List.append_nil]
      · rw [hbatch, hraised]
        exact hraise.latencies
      · rw [hleftOff, hrecorded]
  | @refused before told change plan fault reset hbefore hchosen htold hmutation =>
      -- The change is the last thing that is tried, so that all that is told is the latency.
      have hasked : decisions (before ++ (told ++ (change ++ [⟨.resetManager, reset⟩]))) =
          decisions before := (decisions_of_change htold hmutation).trans (List.append_nil _)
      have hsent : sent (before ++ (told ++ (change ++ [⟨.resetManager, reset⟩]))) =
          latencyNotices user plan :=
        (sent_of_change hbefore htold hmutation).trans (List.append_nil _)
      have hraise := hchosen.raise
      rw [hraise.latencyNotices_eq] at hsent
      cases hraise with
      | none hunraised hchanges =>
          rw [hchanges] at hsent
          exact .refused (hasked ▸ hunraised) hsent
      | first hraised hfirst hproposed hrequired hchanges =>
          rw [hchanges] at hsent
          exact .refusedRaise (hasked ▸ hraised) hfirst (List.mem_append_left _ hproposed)
            hrequired hsent

end Negotiation

/-! ### The operation around it -/

namespace Operation

variable {config : DeskConfig} {wording : Wording} {user : UserId} {operation : Operation}
  {events : List Event} {result : Except ServiceFault Outcome} {outcome : Outcome}

theorem sent_of_reports {reports : List Event}
    (hreports : ∀ event ∈ reports, event.query.isReport) : sent reports = [] := by
  refine sent_eq_nil fun event hevent => ?_
  have hreport := hreports event hevent
  cases hquery : event.query with
  | notify =>
      rw [hquery] at hreport
      contradiction
  | _ => rfl

theorem leftOff_of_reports {reports : List Event}
    (hreports : ∀ event ∈ reports, event.query.isReport) : leftOff reports = [] := by
  refine leftOff_eq_nil fun event hevent => ?_
  have hreport := hreports event hevent
  obtain ⟨query, answer⟩ := event
  cases query with
  | schedule => contradiction
  | _ => rfl

theorem announcement_of_told {batch : List Subscription} {negotiation told reports : List Event}
    {reply : Reply} (hannouncement : Announcement user batch (fun _ => []) negotiation outcome)
    (htold : told.map Event.query =
      (operation.notices user outcome.subscriptions).map Query.notify)
    (hreports : ∀ event ∈ reports, event.query.isReport) :
    Announcement user batch (operation.notices user) (negotiation ++ (told ++ reports))
      { outcome with reply := reply } := by
  have hleftOff : leftOff (negotiation ++ (told ++ reports)) = leftOff negotiation := by
    have hnotices := leftOff_eq_nil (Negotiation.forall_of_notices (fun _ _ => rfl) htold)
    rw [leftOff_append, leftOff_append, hnotices, leftOff_of_reports hreports]
    exact List.append_nil _
  refine ⟨?_, hannouncement.latencies, hleftOff.trans hannouncement.leftOff⟩
  rw [sent_append, sent_append, hannouncement.sent, sent_of_notices htold,
    sent_of_reports hreports, hleftOff, List.append_nil, List.append_nil]

theorem FollowUp.announced {batch : List Subscription} {negotiation : List Event}
    {negotiated : Except ServiceFault Outcome}
    (hfollow : operation.FollowUp user negotiated events result)
    (hannounced : Announced user batch (fun _ => []) negotiation negotiated) :
    Announced user batch (operation.notices user) (negotiation ++ events) result := by
  cases hfollow with
  | refused =>
      rw [List.append_nil]
      cases hannounced with
      | refused hunraised hsent => exact .refused hunraised hsent
      | refusedRaise hraised hfirst hproposed hrequired hsent =>
          exact .refusedRaise hraised hfirst hproposed hrequired hsent
  | unchanged hunmade =>
      rw [List.append_nil]
      cases hannounced with
      | unmade _ hsent => exact .unmade hunmade hsent
      | made hmade => simp [hunmade] at hmade
  | changed hmade htold hreports =>
      cases hannounced with
      | unmade hunmade => simp [hunmade] at hmade
      | made _ hannouncement =>
          exact .made hmade (announcement_of_told hannouncement htold hreports)

theorem announced_of_direct {batch : List Subscription} {change : Event} {told : List Event}
    {reply : Reply} {record : Record} (hmade : record.standing = (true, .empty))
    (hunraised : latencyChanges record.changes = []) (hsent : sent [change] = [])
    (hleftOff : leftOff [change] = [])
    (htold : told.map Event.query = (operation.notices user batch).map Query.notify) :
    Announced user batch (operation.notices user) (change :: told)
      (.ok ⟨reply, batch, record⟩) := by
  have hnames : leftOff (change :: told) = [] := by
    have hnotices := leftOff_eq_nil (Negotiation.forall_of_notices (fun _ _ => rfl) htold)
    rw [← List.singleton_append, leftOff_append, hleftOff, hnotices]
    rfl
  refine .made (congrArg Prod.fst hmade) ⟨?_, ?_, ?_⟩
  · rw [hunraised, hnames, ← List.singleton_append, sent_append, hsent, sent_of_notices htold]
    rfl
  · rw [hunraised]
    exact .kept rfl
  · rw [hnames]
    exact (congrArg (fun standing => standing.2.members) hmade).symm

theorem Course.announced (hcourse : operation.Course config wording user events result) :
    Announced user operation.batch (operation.notices user) events result := by
  cases hcourse with
  | invalid hinvalid =>
      obtain ⟨batch, message, rfl⟩ := turnedDown_of_invalid? hinvalid
      exact .unmade rfl rfl
  | taken found => exact .unmade rfl rfl
  | unknown fault reset =>
      have hstanding : ((Record.empty.afterReset reset).push .aborted).standing =
          (false, .empty) := by
        rw [Record.standing_push_of_ne (by simp), Record.standing_afterReset]
        rfl
      exact .unmade (congrArg Prod.fst hstanding) rfl
  | @negotiated operation mutation negotiation tail negotiated result hvalid hmutation hnegotiation
      hfollow =>
      have hlookup : sent operation.lookup = [] ∧ leftOff operation.lookup = [] ∧
          decisions operation.lookup = [] := by
        unfold lookup
        cases operation.newName? <;> exact ⟨rfl, rfl, rfl⟩
      exact (hfollow.announced hnegotiation.ending.announced).prepend hlookup.1 hlookup.2.1
        hlookup.2.2
  | nothing => exact .unmade rfl rfl
  | deactivated hsome htold =>
      refine announced_of_direct rfl ?_ rfl rfl htold
      exact List.filterMap_eq_nil_iff.mpr fun change hchange => by
        obtain ⟨changed, -, rfl⟩ := List.mem_map.mp hchange
        rfl
  | deleted hsome htold => exact announced_of_direct rfl rfl rfl rfl htold
  | notDeactivated | notDeleted => exact .refused List.not_mem_nil rfl

/-- **What is told of a change that was made.** -/
theorem announcement_of_executed
    (hruns : Dialogue.Runs (operation.run config wording user) events (.ok outcome))
    (hexecuted : outcome.record.actionExecuted = true) :
    Announcement user operation.batch (operation.notices user) events outcome := by
  cases (course_of_runs hruns).announced with
  | unmade hunmade => simp [hunmade] at hexecuted
  | made _ hannouncement => exact hannouncement

end Operation

/-- The user agrees to a higher latency, the schedule leaves a name off that nobody has asked about,
and the registry cannot be read where that name is to be flagged. -/
def crowdedActivation : Operation := .activate [.sample "winds", .sample "snow"]

def crowdedActivationRun : List Event × Except ServiceFault Outcome × Rehearsal :=
  (crowdedActivation.run .standard standardWording ⟨"user"⟩).converse Rehearsal.respond
    (.scripted [.sample "winds", .sample "snow"]
      { Script.crowded .increaseLatency ["winds", "waves"] with
        faults := [("registry.get_by_name", [some "disk full"])] })

def crowdedActivationOutcome : Outcome :=
  crowdedActivationRun.2.1.toOption.getD .noSubscriptions

theorem announcement_crowdedActivation :
    Dialogue.Runs (crowdedActivation.run .standard standardWording ⟨"user"⟩) crowdedActivationRun.1
        (.ok crowdedActivationOutcome) ∧
      crowdedActivationOutcome.record.actionExecuted = true ∧
      Announcement ⟨"user"⟩ crowdedActivation.batch (crowdedActivation.notices ⟨"user"⟩)
        crowdedActivationRun.1 crowdedActivationOutcome ∧
      sent crowdedActivationRun.1 =
        [⟨.unscheduled, ⟨"user"⟩, ⟨"winds"⟩, "The latency of subscription winds was changed " ++
            "from 0 to 30 minutes so that it can be scheduled."⟩,
          ⟨.unscheduled, ⟨"user"⟩, ⟨"waves"⟩, "Subscription waves is unscheduled."⟩,
          ⟨.unscheduled, ⟨"user"⟩, ⟨"winds"⟩, "Subscription winds is unscheduled."⟩,
          ⟨.activated, ⟨"user"⟩, ⟨"winds"⟩, "Subscription winds activated by user."⟩,
          ⟨.activated, ⟨"user"⟩, ⟨"snow"⟩, "Subscription snow activated by user."⟩] := by
  have hresult : crowdedActivationRun.2.1 = .ok crowdedActivationOutcome := by rfl
  have hruns : Dialogue.Runs (crowdedActivation.run .standard standardWording ⟨"user"⟩)
      crowdedActivationRun.1 (.ok crowdedActivationOutcome) := by
    rw [← hresult]
    exact Dialogue.runs_converse ..
  have hexecuted : crowdedActivationOutcome.record.actionExecuted = true := by decide +kernel
  exact ⟨hruns, hexecuted, Operation.announcement_of_executed hruns hexecuted, by decide +kernel⟩

/-- What a run has told of a change that was not made. -/
structure Unannounced (user : UserId) (batch : List Subscription) (events : List Event)
    (result : Except ServiceFault Outcome) : Prop where
  unmade : ∀ outcome, result = .ok outcome → outcome.record.actionExecuted = false →
    sent events = []
  refused : ∀ fault, result = .error fault → .increaseLatency ∉ decisions events → sent events = []
  /-- A latency is told of before it is known whether the change goes through, and then once. -/
  refusedRaise : ∀ fault, result = .error fault → .increaseLatency ∈ decisions events →
    ∃ first proposal, batch.head? = some first ∧
      ⟨.propose (Negotiation.cleared batch), .ok proposal⟩ ∈ events ∧
      first.latency < proposal.requiredLatency ∧
      sent events =
        latencyNews user [(first.name, first.latency, proposal.requiredLatency)]

/-- **Nothing is told of a change that was not made**, but for the latency that the user has agreed
to. -/
theorem Operation.unannounced_of_runs {config : DeskConfig} {wording : Wording} {user : UserId}
    {operation : Operation} {events : List Event} {result : Except ServiceFault Outcome}
    (hruns : Dialogue.Runs (operation.run config wording user) events result) :
    Unannounced user operation.batch events result := by
  have hannounced := (course_of_runs hruns).announced
  constructor
  case unmade =>
    rintro outcome rfl hunmade
    cases hannounced with
    | unmade _ hsent => exact hsent
    | made hmade => simp [hunmade] at hmade
  case refused =>
    rintro fault rfl hunraised
    cases hannounced with
    | refused _ hsent => exact hsent
    | refusedRaise hraised => exact absurd hraised hunraised
  case refusedRaise =>
    rintro fault rfl hraised
    cases hannounced with
    | refused hunraised => exact absurd hraised hunraised
    | refusedRaise _ hfirst hproposed hrequired hsent =>
        exact ⟨_, _, hfirst, hproposed, hrequired, hsent⟩

/-- The user agrees to a higher latency, and then the registry does not take the update. -/
def refusedRaiseRun : List Event × Except ServiceFault Outcome × Rehearsal :=
  ((Operation.update (.sample "winds")).run .standard standardWording ⟨"user"⟩).converse
    Rehearsal.respond
    (.scripted [.sample "winds"]
      { Script.crowded .increaseLatency [] with
        faults := [("registry.update_all", [some "disk full"])] })

theorem unannounced_refusedRaise :
    Dialogue.Runs ((Operation.update (.sample "winds")).run .standard standardWording ⟨"user"⟩)
        refusedRaiseRun.1 refusedRaiseRun.2.1 ∧
      Unannounced ⟨"user"⟩ (Operation.update (.sample "winds")).batch refusedRaiseRun.1
        refusedRaiseRun.2.1 ∧
      decisions refusedRaiseRun.1 = [.increaseLatency] :=
  ⟨Dialogue.runs_converse .., Operation.unannounced_of_runs (Dialogue.runs_converse ..),
    by decide +kernel⟩

/-- The other workstations are told of a latency that no subscription has. -/
theorem sent_ne_nil_refusedRaise :
    Dialogue.Runs ((Operation.update (.sample "winds")).run .standard standardWording ⟨"user"⟩)
        refusedRaiseRun.1 refusedRaiseRun.2.1 ∧
      refusedRaiseRun.2.1 = .error (.registry ⟨"disk full"⟩) ∧
      sent refusedRaiseRun.1 =
        [⟨.unscheduled, ⟨"user"⟩, ⟨"winds"⟩, "The latency of subscription winds was changed " ++
          "from 0 to 30 minutes so that it can be scheduled."⟩] :=
  ⟨Dialogue.runs_converse .., rfl, by decide +kernel⟩

end SubscriptionDesk

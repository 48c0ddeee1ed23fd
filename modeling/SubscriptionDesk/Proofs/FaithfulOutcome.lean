import SubscriptionDesk.Proofs.AuditTrail
import SubscriptionDesk.Proofs.FailureProtocol
import SubscriptionDesk.Proofs.Validity

/-!
# What an operation reports

An operation that does not fail returns a record and a reply. The record tells which calls were made
and what came of them. The reply tells success, a rejection, a decision to stop and a failure from
each other, by whether it has a message and whether the editor stays open. For a negotiation this is
settled before the change is made: by the overlap check, the proposal and the decision on it, which
are called its opening here. The change itself can only succeed or end the operation with an error.
-/

namespace SubscriptionDesk

def Query.opens : Query → Bool
  | .checkOverlap _ => true
  | .propose _ => true
  | .prompt _ _ => true
  | _ => false

def opening (events : List Event) : List Event := events.filter fun event => event.query.opens

section Opening

variable {first second events : List Event} {event : Event}

theorem opening_append : opening (first ++ second) = opening first ++ opening second :=
  List.filter_append ..

theorem opening_eq_nil (hnone : ∀ event ∈ events, event.query.opens = false) :
    opening events = [] :=
  List.filter_eq_nil_iff.mpr fun event hevent => by simp [hnone event hevent]

theorem opening_cons_of_true (hopens : event.query.opens = true) :
    opening (event :: events) = event :: opening events :=
  List.filter_cons_of_pos hopens

theorem mem_opening {query : Query} {answer : query.Answer} (hopens : query.opens = true) :
    ⟨query, answer⟩ ∈ opening events ↔ (⟨query, answer⟩ : Event) ∈ events := by
  simp [opening, hopens]

end Opening

namespace Negotiation

variable {config : DeskConfig} {wording : Wording} {user : UserId} {mutation : Mutation}
  {submitted batch : List Subscription} {record : Record} {events : List Event}

/-! ### How the opening of a negotiation decides its reply -/

theorem opening_of_notices {told : List Event} {notices : List Notice}
    (htold : told.map Event.query = notices.map Query.notify) : opening told = [] :=
  opening_eq_nil (forall_of_notices (fun _ _ => rfl) htold)

theorem MutationCourse.opening_eq {answer : Except RegistryFault String}
    (hmutation : MutationCourse user batch mutation events answer) : opening events = [] :=
  opening_eq_nil (hmutation.forall_mem (fun _ _ => rfl) (fun _ => rfl) fun _ => rfl)

theorem ExecutionCourse.opening_eq {message : String} {after : Record}
    (hexecute : ExecutionCourse mutation user batch record events (.ok (message, after))) :
    opening events = [] := by
  cases hexecute with
  | executed hchange => exact (runs_mutation.mp hchange).opening_eq

theorem SettlementCourse.opening_eq {message : String} {settled : String × Record}
    (hsettle : SettlementCourse user batch message record events settled) :
    opening events = [] :=
  opening_eq_nil (hsettle.forall_mem (fun _ => rfl) (fun _ => rfl) (fun _ _ => rfl)
    (fun _ _ => rfl) fun _ _ => rfl)

theorem ForceCourse.shape_eq {plan : Plan} {outcome : Outcome}
    (hforce : ForceCourse user mutation batch record plan events (.ok outcome)) :
    outcome.reply.shape = (true, false) := by
  obtain ⟨told, change, settlement, message, executed, settled, -, -, -, -, rfl⟩ := hforce.of_ok
  rfl

theorem ForceCourse.opening_eq {plan : Plan} {outcome : Outcome}
    (hforce : ForceCourse user mutation batch record plan events (.ok outcome)) :
    opening events = [] := by
  obtain ⟨told, change, settlement, message, executed, settled, rfl, htold, hexecute, hsettle,
    -⟩ := hforce.of_ok
  rw [opening_append, opening_append, opening_of_notices htold, hexecute.opening_eq,
    hsettle.opening_eq]
  rfl

inductive ProposalOpening (batch : List Subscription) : List Event → Bool × Bool → Prop where
  | failed (fault : BandwidthFault) :
      ProposalOpening batch [⟨.propose batch, .error fault⟩] (false, false)
  | fits (proposal : Proposal) :
      ProposalOpening batch [⟨.propose batch, .ok proposal⟩] (true, false)
  | abandoned {proposal : Proposal} {configuration : PromptConfiguration} {decision : Decision}
      {names : Option (NameSet .subscription)} (offers : List Offer) :
      decision.resolve batch proposal configuration = .abort names →
      ProposalOpening batch
        [⟨.propose batch, .ok proposal⟩, ⟨.prompt configuration offers, decision⟩] (false, true)
  | forced {proposal : Proposal} {configuration : PromptConfiguration} {decision : Decision}
      {plan : Plan} (offers : List Offer) :
      decision.resolve batch proposal configuration = .apply plan →
      ProposalOpening batch
        [⟨.propose batch, .ok proposal⟩, ⟨.prompt configuration offers, decision⟩] (true, false)

inductive Opening : List Event → Bool × Bool → Prop where
  | unneeded : Opening [] (true, false)
  | unchecked (candidates : List Subscription) (fault : RegistryFault) :
      Opening [⟨.checkOverlap candidates, .error fault⟩] (false, false)
  | duplicate (candidates : List Subscription) (names : NameSet .subscription) :
      Opening [⟨.checkOverlap candidates, .ok ⟨.duplicate, names⟩⟩] (true, true)
  | unlooked {batch : List Subscription} {proposed : List Event} {shape : Bool × Bool} :
      ProposalOpening batch proposed shape → Opening proposed shape
  | passed {batch candidates : List Subscription} {report : OverlapReport} {proposed : List Event}
      {shape : Bool × Bool} :
      report.kind ≠ .duplicate → ProposalOpening batch proposed shape →
      Opening (⟨.checkOverlap candidates, .ok report⟩ :: proposed) shape

section Opening

variable {outcome : Outcome}

theorem ProposalCourse.opened
    (hpropose : ProposalCourse config wording user mutation batch record events (.ok outcome)) :
    ProposalOpening batch (opening events) outcome.reply.shape := by
  generalize hresult : (Except.ok outcome : Except ServiceFault Outcome) = result at hpropose
  cases hpropose with
  | failed fault reset =>
      cases hresult
      exact .failed fault
  | @fits proposal change executed hfits hexecute =>
      obtain ⟨message, after, rfl, rfl⟩ := concluded_eq_ok_iff.mp hresult.symm
      rw [opening_cons_of_true rfl, hexecute.opening_eq]
      exact .fits proposal
  | @abandoned proposal decision names hunfit hresolve =>
      cases hresult
      have hopened : opening (managerOpened names) = [] := by
        cases names <;> rfl
      rw [opening_cons_of_true rfl, opening_cons_of_true rfl, hopened]
      exact .abandoned _ hresolve
  | @forced proposal decision plan change result hunfit hresolve hforce =>
      subst hresult
      rw [opening_cons_of_true rfl, opening_cons_of_true rfl, hforce.opening_eq, hforce.shape_eq]
      exact .forced _ hresolve

theorem Course.opened (hsome : submitted ≠ [])
    (hcourse : Course config wording user mutation submitted events (.ok outcome)) :
    Opening (opening events) outcome.reply.shape := by
  cases hcourse with
  | empty hnil => exact absurd hnil hsome
  | stopped _ hcheck =>
      cases hcheck with
      | failed fault => exact .unchecked _ fault
      | duplicate names => exact .duplicate _ names
  | passed _ hcheck hpropose =>
      rw [opening_append]
      cases hcheck with
      | unchecked => exact .unlooked hpropose.opened
      | clear | partlyCovered => exact .passed nofun hpropose.opened

end Opening

end Negotiation

/-! ### What the opening says of the reply -/

def FoundDuplicate (events : List Event) : Prop :=
  ∃ candidates report, ⟨.checkOverlap candidates, .ok report⟩ ∈ events ∧ report.kind = .duplicate

def CheckFailed (events : List Event) : Prop :=
  ∃ candidates fault, ⟨.checkOverlap candidates, .error fault⟩ ∈ events

def ProposalFailed (events : List Event) : Prop :=
  ∃ batch fault, ⟨.propose batch, .error fault⟩ ∈ events

def Abandoned (events : List Event) : Prop :=
  ∃ batch proposal configuration offers decision names,
    ⟨.propose batch, .ok proposal⟩ ∈ events ∧ ⟨.prompt configuration offers, decision⟩ ∈ events ∧
    decision.resolve batch proposal configuration = .abort names

section Opening

variable {events : List Event}

theorem foundDuplicate_opening : FoundDuplicate (opening events) ↔ FoundDuplicate events :=
  exists_congr fun _ => exists_congr fun _ => and_congr_left' (mem_opening rfl)

theorem checkFailed_opening : CheckFailed (opening events) ↔ CheckFailed events :=
  exists_congr fun _ => exists_congr fun _ => mem_opening rfl

theorem proposalFailed_opening : ProposalFailed (opening events) ↔ ProposalFailed events :=
  exists_congr fun _ => exists_congr fun _ => mem_opening rfl

theorem abandoned_opening : Abandoned (opening events) ↔ Abandoned events := by
  constructor
  · rintro ⟨batch, proposal, configuration, offers, decision, names, hproposed, hasked, hresolve⟩
    have hproposed' := (mem_opening rfl).mp hproposed
    have hasked' := (mem_opening rfl).mp hasked
    exact ⟨_, _, _, _, _, _, hproposed', hasked', hresolve⟩
  · rintro ⟨batch, proposal, configuration, offers, decision, names, hproposed, hasked, hresolve⟩
    have hproposed' := (mem_opening rfl).mpr hproposed
    have hasked' := (mem_opening rfl).mpr hasked
    exact ⟨_, _, _, _, _, _, hproposed', hasked', hresolve⟩

end Opening

namespace Negotiation.Opening

variable {opened : List Event} {shape : Bool × Bool}

theorem duplicate_iff (hopening : Opening opened shape) :
    shape = (true, true) ↔ FoundDuplicate opened := by
  cases hopening with
  | unneeded | unchecked | duplicate => simp [FoundDuplicate]
  | unlooked hproposal => cases hproposal <;> simp [FoundDuplicate]
  | passed hkind hproposal => cases hproposal <;> simp_all [FoundDuplicate]

theorem abandoned_iff (hopening : Opening opened shape) :
    shape = (false, true) ↔ Abandoned opened := by
  cases hopening with
  | unneeded | unchecked | duplicate => simp [Abandoned]
  | unlooked hproposal => cases hproposal <;> simp_all [Abandoned]
  | passed hkind hproposal => cases hproposal <;> simp_all [Abandoned]

theorem failed_iff (hopening : Opening opened shape) :
    shape = (false, false) ↔ CheckFailed opened ∨ ProposalFailed opened := by
  cases hopening with
  | unneeded | unchecked | duplicate => simp [CheckFailed, ProposalFailed]
  | unlooked hproposal => cases hproposal <;> simp [CheckFailed, ProposalFailed]
  | passed hkind hproposal => cases hproposal <;> simp [CheckFailed, ProposalFailed]

end Negotiation.Opening

/-! ### The whole operation -/

namespace Operation

open Negotiation

variable {config : DeskConfig} {wording : Wording} {user : UserId} {operation : Operation}
  {events : List Event} {outcome : Outcome}

def Invalid (operation : Operation) : Prop :=
  operation.validates = true ∧ ∃ subscription ∈ operation.batch, subscription.check ≠ .ok ()

def Taken (operation : Operation) (events : List Event) : Prop :=
  ∃ name found, operation.newName? = some name ∧
    events.head? = some ⟨.registry (.find name), .ok (some found)⟩

/-- Whether an operation is turned down before anyone is called on to take it. -/
def Rejected (operation : Operation) (events : List Event) : Prop :=
  operation.batch = [] ∨ operation.Invalid ∨ operation.Taken events

/-- What record and reply say of a run: the steps are the trail of the calls, and the reply tells
success, a rejection, a decision to stop, and a failure from each other. -/
structure Audited (operation : Operation) (events : List Event) (outcome : Outcome) : Prop where
  rejected_iff : outcome.record.steps = [.rejected] ↔ operation.Rejected events
  steps_eq : ¬operation.Rejected events → outcome.record.steps = closed (trail events)
  settled_iff : outcome.reply.shape = (true, false) ↔
    .actionExecuted ∈ trail events ∨ operation.batch = []
  refused_iff : outcome.reply.shape = (true, true) ↔
    operation.Invalid ∨ operation.Taken events ∨ FoundDuplicate events
  abandoned_iff : outcome.reply.shape = (false, true) ↔ Abandoned events
  failed_iff : outcome.reply.shape = (false, false) ↔
    operation.LookupFailed events ∨ CheckFailed events ∨ ProposalFailed events

theorem invalid_iff : operation.Invalid ↔ operation.invalid? ≠ none := by
  rw [ne_eq, invalid?_eq_none_iff]
  simp [Invalid]

theorem Invalid.batch_ne_nil (hinvalid : operation.Invalid) : operation.batch ≠ [] := by
  obtain ⟨-, subscription, hmem, -⟩ := hinvalid
  exact List.ne_nil_of_mem hmem

theorem batch_ne_nil_of_newName? {name : SubscriptionName}
    (hname : operation.newName? = some name) : operation.batch ≠ [] := by
  cases operation <;> simp_all [newName?, batch]

theorem storesOne {mutation : Mutation} (hmutation : operation.mutation? = some mutation) :
    StoresOne mutation operation.batch := by
  intro hnew
  cases operation with
  | store | storeAdhoc => rfl
  | deactivate | delete => contradiction
  | _ =>
      cases hmutation
      simp at hnew

theorem audited_of_concluded (haccepted : ¬operation.Rejected events)
    (hfound : ¬operation.LookupFailed events) (hconcluded : Concluded [] events outcome)
    (hopening : Opening (opening events) outcome.reply.shape) :
    operation.Audited events outcome := by
  obtain ⟨hsome, hrest⟩ := not_or.mp haccepted
  obtain ⟨hvalid, hfree⟩ := not_or.mp hrest
  have hsteps : outcome.record.steps = closed (trail events) := by
    unfold closed
    cases hconcluded with
    | made hmade hsteps => simp [hmade, hsteps]
    | unmade hunmade hsteps => simp [hunmade, hsteps]
  refine ⟨?_, fun _ => hsteps, ?_, ?_, ?_, ?_⟩
  · -- No call leaves this step in a trail, so an accepted run is never taken for a rejected one.
    have hne : outcome.record.steps ≠ [.rejected] := by
      intro hrejected
      have hmem : .rejected ∈ closed (trail events) := by simp [← hsteps, hrejected]
      unfold closed at hmem
      split at hmem <;> simp [rejected_not_mem_trail] at hmem
    simp [hne, haccepted]
  · cases hconcluded with
    | made hmade _ hshape => simp [hmade, hshape]
    | unmade hunmade _ hshape => simp [hunmade, hshape, hsome]
  · rw [hopening.duplicate_iff, foundDuplicate_opening]
    simp [hvalid, hfree]
  · rw [hopening.abandoned_iff, abandoned_opening]
  · rw [hopening.failed_iff, checkFailed_opening, proposalFailed_opening]
    simp [hfound]

/-- What is turned down at once leaves no trail. -/
theorem audited_of_turnedDown {batch : List Subscription} {message : String}
    (hrejected : operation.Invalid ∨ operation.Taken events)
    (hsome : operation.batch ≠ []) (hfound : ¬operation.LookupFailed events)
    (htrail : trail events = []) (hopening : opening events = []) :
    operation.Audited events (.turnedDown batch message) where
  rejected_iff := ⟨fun _ => .inr hrejected, fun _ => rfl⟩
  steps_eq haccepted := absurd (.inr hrejected) haccepted
  settled_iff := by simp [htrail, hsome, Outcome.turnedDown]
  refused_iff := by
    rw [← or_assoc]
    exact ⟨fun _ => .inl hrejected, fun _ => rfl⟩
  abandoned_iff := by
    rw [← abandoned_opening, hopening]
    simp [Abandoned, Outcome.turnedDown]
  failed_iff := by
    rw [← checkFailed_opening, ← proposalFailed_opening, hopening]
    simp [CheckFailed, ProposalFailed, hfound, Outcome.turnedDown]

theorem audited_of_nothing (hnone : operation.batch = []) :
    operation.Audited [] .noSubscriptions where
  rejected_iff := ⟨fun _ => .inl hnone, fun _ => rfl⟩
  steps_eq haccepted := absurd (.inl hnone) haccepted
  settled_iff := ⟨fun _ => .inr hnone, fun _ => rfl⟩
  refused_iff := by
    simp [Invalid, Taken, FoundDuplicate, hnone, Outcome.noSubscriptions]
  abandoned_iff := by simp [Abandoned, Outcome.noSubscriptions]
  failed_iff := by
    simp [LookupFailed, CheckFailed, ProposalFailed, Outcome.noSubscriptions]

/-- When nobody can tell whether a name is free, the operation stops without an opening. -/
theorem audited_of_unknown {name : SubscriptionName} {fault : RegistryFault}
    {reset : Except BandwidthFault Unit} (hvalid : operation.invalid? = none)
    (hname : operation.newName? = some name)
    (hevents : events = [⟨.registry (.find name), .error fault⟩, ⟨.resetManager, reset⟩]) :
    operation.Audited events
      (.aborted .failure operation.batch (Record.empty.afterReset reset)) := by
  have hinvalid : ¬operation.Invalid := fun hinvalid => invalid_iff.mp hinvalid hvalid
  have hsome : operation.batch ≠ [] := batch_ne_nil_of_newName? hname
  have hfree : ¬operation.Taken events := by simp [Taken, hevents]
  have hfailed : operation.LookupFailed events := ⟨name, fault, hname, by simp [hevents]⟩
  have haccepted : ¬operation.Rejected events := by simp [Rejected, hinvalid, hsome, hfree]
  have htrail : trail events = [.reinitialized] := by
    rw [hevents]
    rfl
  have hcovered : ¬FoundDuplicate events := by simp [FoundDuplicate, hevents]
  refine ⟨?_, fun _ => ?_, ?_, ?_, ?_, ?_⟩
  · simp [haccepted, Outcome.aborted, Record.empty]
  · simp [closed, htrail, Outcome.aborted, Record.empty]
  · simp [htrail, hsome, Outcome.aborted]
  · simp [hinvalid, hfree, hcovered, Outcome.aborted]
  · simp [hevents, Abandoned, Outcome.aborted]
  · simp [hfailed, Outcome.aborted]

section Around

variable {negotiated result : Except ServiceFault Outcome}

theorem FollowUp.trail_eq (hfollow : operation.FollowUp user negotiated events result) :
    trail events = [] :=
  trail_eq_nil (hfollow.forall_mem (fun _ _ => rfl) (fun _ _ => rfl) fun _ _ => rfl)

theorem FollowUp.opening_eq (hfollow : operation.FollowUp user negotiated events result) :
    opening events = [] :=
  opening_eq_nil (hfollow.forall_mem (fun _ _ => rfl) (fun _ _ => rfl) fun _ _ => rfl)

theorem FollowUp.shape_eq (hfollow : operation.FollowUp user negotiated events (.ok outcome)) :
    ∃ before, negotiated = .ok before ∧ outcome.record = before.record ∧
      outcome.reply.shape = before.reply.shape := by
  cases hfollow with
  | unchanged => exact ⟨_, rfl, rfl, rfl⟩
  | changed _ _ _ hmessage hediting => exact ⟨_, rfl, rfl, Prod.ext hmessage hediting⟩

theorem trail_lookup : trail operation.lookup = [] := by
  unfold lookup
  cases operation.newName? <;> rfl

theorem opening_lookup : opening operation.lookup = [] := by
  unfold lookup
  cases operation.newName? <;> rfl

/-- A name that was looked up and is free is neither taken nor unknown. -/
theorem free_of_lookup {rest : List Event} :
    ¬operation.Taken (operation.lookup ++ rest) ∧
      ¬operation.LookupFailed (operation.lookup ++ rest) := by
  constructor
  · rintro ⟨name, found, hname, hhead⟩
    simp [lookup, hname] at hhead
  · rintro ⟨name, fault, hname, hhead⟩
    simp [lookup, hname] at hhead

theorem audited_of_negotiated {mutation : Mutation} {negotiation tail : List Event}
    (hvalid : operation.invalid? = none) (hmutation : operation.mutation? = some mutation)
    (hnegotiation :
      Negotiation.Course config wording user mutation operation.batch negotiation negotiated)
    (hfollow : operation.FollowUp user negotiated tail (.ok outcome)) :
    operation.Audited (operation.lookup ++ (negotiation ++ tail)) outcome := by
  obtain ⟨before, rfl, hrecord, hshape⟩ := hfollow.shape_eq
  by_cases hnone : operation.batch = []
  · -- An empty batch has no new name, so nothing is looked up before it is turned down.
    have hname : operation.newName? = none := by
      cases hnew : operation.newName? with
      | none => rfl
      | some name => exact absurd hnone (batch_ne_nil_of_newName? hnew)
    rw [hnone] at hnegotiation
    cases hnegotiation with
    | empty =>
        cases hfollow with
        | unchanged =>
            have hcalls : operation.lookup ++ ([] ++ []) = [] := by simp [lookup, hname]
            rw [hcalls]
            exact audited_of_nothing hnone
        | changed hmade => contradiction
    | stopped hsome | passed hsome => contradiction
  · obtain ⟨hfree, hfound⟩ := @free_of_lookup operation (negotiation ++ tail)
    have htrail : trail (operation.lookup ++ (negotiation ++ tail)) = trail negotiation := by
      rw [trail_append, trail_append, trail_lookup, hfollow.trail_eq, List.nil_append,
        List.append_nil]
    have hopening : opening (operation.lookup ++ (negotiation ++ tail)) = opening negotiation := by
      rw [opening_append, opening_append, opening_lookup, hfollow.opening_eq, List.nil_append,
        List.append_nil]
    have haccepted : ¬operation.Rejected (operation.lookup ++ (negotiation ++ tail)) := by
      rintro (hempty | hinvalid | htaken)
      · exact hnone hempty
      · exact invalid_iff.mp hinvalid hvalid
      · exact hfree htaken
    refine audited_of_concluded haccepted hfound ?_ ?_
    · exact (hnegotiation.concluded (storesOne hmutation) hnone).congr htrail hrecord hshape
    · rw [hopening, hshape]
      exact hnegotiation.opened hnone

theorem audited_of_direct {change : Event} {told : List Event} {notices : List Notice}
    (hvalid : operation.invalid? = none) (hname : operation.newName? = none)
    (hsome : operation.batch ≠ [])
    (hchange : change.step? = some .actionExecuted) (hquery : change.query.opens = false)
    (htold : told.map Event.query = notices.map Query.notify)
    (hsteps : outcome.record.steps = [.actionExecuted])
    (hshape : outcome.reply.shape = (true, false)) :
    operation.Audited (change :: told) outcome := by
  have htrail : trail (change :: told) = [.actionExecuted] := by
    rw [trail_cons_of_some hchange, trail_of_notices htold]
  have hopening : opening (change :: told) = [] := by
    refine opening_eq_nil (List.forall_mem_cons.mpr ⟨hquery, ?_⟩)
    exact forall_of_notices (fun _ _ => rfl) htold
  have haccepted : ¬operation.Rejected (change :: told) := by
    rintro (hempty | hinvalid | ⟨name, found, hnew, -⟩)
    · exact hsome hempty
    · exact invalid_iff.mp hinvalid hvalid
    · simp [hname] at hnew
  refine audited_of_concluded haccepted ?_ ?_ ?_
  · rintro ⟨name, fault, hnew, -⟩
    simp [hname] at hnew
  · exact .made (by simp [htrail]) (by rw [hsteps, htrail, List.nil_append]) hshape
  · rw [hopening, hshape]
    exact .unneeded

theorem Course.audited (hcourse : operation.Course config wording user events (.ok outcome)) :
    operation.Audited events outcome := by
  cases hcourse with
  | invalid hinvalid =>
      obtain ⟨batch, message, rfl⟩ := turnedDown_of_invalid? hinvalid
      have hturned : operation.Invalid := invalid_iff.mpr (by simp [hinvalid])
      exact audited_of_turnedDown (.inl hturned) hturned.batch_ne_nil (by simp [LookupFailed]) rfl
        rfl
  | taken found hvalid hname =>
      exact audited_of_turnedDown (.inr ⟨_, found, hname, rfl⟩) (batch_ne_nil_of_newName? hname)
        (by simp [LookupFailed]) rfl rfl
  | unknown fault reset hvalid hname => exact audited_of_unknown hvalid hname rfl
  | negotiated hvalid hmutation hnegotiation hfollow =>
      exact audited_of_negotiated hvalid hmutation hnegotiation hfollow
  | nothing _ hnone => exact audited_of_nothing hnone
  | deactivated hsome htold =>
      exact audited_of_direct rfl rfl (by simpa [batch] using hsome) rfl rfl htold rfl rfl
  | deleted hsome htold =>
      exact audited_of_direct rfl rfl (by simpa [batch] using hsome) rfl rfl htold rfl rfl

end Around

/-- **Record and reply are faithful.** Whatever is answered to an operation that does not fail, the
steps of its record are the trail of the calls that were made, and its reply agrees with them. -/
theorem audited_of_runs
    (hruns : Dialogue.Runs (operation.run config wording user) events (.ok outcome)) :
    operation.Audited events outcome :=
  (course_of_runs hruns).audited

end Operation

def crowdedCreation : Operation := .store (.sample "winds")

def crowdedCreationRun : List Event × Except ServiceFault Outcome × Rehearsal :=
  (crowdedCreation.run .standard standardWording ⟨"user"⟩).converse Rehearsal.respond
    (.scripted [.sample "waves"] (.crowded .forceApplyUnscheduled ["winds"]))

def crowdedCreationOutcome : Outcome := crowdedCreationRun.2.1.toOption.getD .noSubscriptions

theorem audited_of_runs_crowdedCreation :
    Dialogue.Runs (crowdedCreation.run .standard standardWording ⟨"user"⟩) crowdedCreationRun.1
        (.ok crowdedCreationOutcome) ∧
      crowdedCreation.Audited crowdedCreationRun.1 crowdedCreationOutcome ∧
      crowdedCreationOutcome.record.steps = [.overlapChecked .partlyCovered, .proposed 1,
        .prompted .forceApplyUnscheduled, .actionExecuted, .scheduled 1] := by
  have hresult : crowdedCreationRun.2.1 = .ok crowdedCreationOutcome := by rfl
  have hruns : Dialogue.Runs (crowdedCreation.run .standard standardWording ⟨"user"⟩)
      crowdedCreationRun.1 (.ok crowdedCreationOutcome) := by
    rw [← hresult]
    exact Dialogue.runs_converse ..
  exact ⟨hruns, Operation.audited_of_runs hruns, by decide +kernel⟩

end SubscriptionDesk

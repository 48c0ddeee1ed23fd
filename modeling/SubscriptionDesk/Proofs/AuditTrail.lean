import SubscriptionDesk.Proofs.Requests

/-!
# The audit trail of a negotiation

The steps of a record are pushed by hand, each where its call is made. That they are the trail of
the calls, whatever is answered, is an invariant of the parts of a negotiation: each part adds to
the steps that it is given the trail of its own calls. At the end one step more tells that the
change was not made, and the reply differs from that of a change that was.
-/

namespace SubscriptionDesk

def Event.step? : Event → Option Step
  | ⟨.checkOverlap _, .ok report⟩ => some (.overlapChecked report.kind)
  | ⟨.propose _, .ok proposal⟩ => some (.proposed (UInt64.ofNat proposal.unscheduled.size))
  | ⟨.prompt _ _, decision⟩ => some (.prompted decision)
  | ⟨.registry (.store _ _), .ok ()⟩ => some .actionExecuted
  | ⟨.registry (.updateAll _ _), .ok ()⟩ => some .actionExecuted
  | ⟨.registry (.delete _ _), .ok ()⟩ => some .actionExecuted
  | ⟨.carryOut _, .ok _⟩ => some .actionExecuted
  | ⟨.schedule _, .ok unscheduled⟩ => some (.scheduled (UInt64.ofNat unscheduled.size))
  | ⟨.resetManager, _⟩ => some .reinitialized
  | _ => none

def trail (events : List Event) : List Step := events.filterMap Event.step?

/-- A trail at the end of an operation. -/
def closed (steps : List Step) : List Step :=
  if .actionExecuted ∈ steps then steps else steps ++ [.aborted]

section Trail

variable {first second events : List Event} {event : Event}

theorem trail_append : trail (first ++ second) = trail first ++ trail second :=
  List.filterMap_append

theorem trail_eq_nil (hnone : ∀ event ∈ events, event.step? = none) : trail events = [] :=
  List.filterMap_eq_nil_iff.mpr hnone

theorem trail_cons_of_some {step : Step} (hstep : event.step? = some step) :
    trail (event :: events) = step :: trail events :=
  List.filterMap_cons_some hstep

theorem rejected_not_mem_trail : .rejected ∉ trail events := by
  intro hmem
  obtain ⟨event, -, hstep⟩ := List.mem_filterMap.mp hmem
  unfold Event.step? at hstep
  split at hstep <;> simp at hstep

end Trail

namespace Record

variable {record : Record}

@[simp]
theorem steps_push {step : Step} : (record.push step).steps = record.steps ++ [step] := rfl

@[simp]
theorem steps_warn {warning : String} : (record.warn warning).steps = record.steps := rfl

@[simp]
theorem steps_note {plan : Plan} : (record.note plan).steps = record.steps := rfl

@[simp]
theorem steps_proposed {proposal : Proposal} :
    (record.proposed proposal).steps =
      record.steps ++ [.proposed (UInt64.ofNat proposal.unscheduled.size)] := rfl

@[simp]
theorem steps_afterReset {answer : Except BandwidthFault Unit} :
    (record.afterReset answer).steps = record.steps ++ [.reinitialized] := by
  rcases answer with fault | ⟨⟩ <;> rfl

@[simp]
theorem steps_noteDecision {offers : List Offer} {decision : Decision} :
    (Negotiation.noteDecision record offers decision).steps =
      record.steps ++ [.prompted decision] := by
  unfold Negotiation.noteDecision
  dsimp only
  split <;> rfl

end Record

namespace Reply

def shape (reply : Reply) : Bool × Bool := (reply.message.isSome, reply.allowFurtherEditing)

variable {message : String}

@[simp]
theorem shape_success : (success message).shape = (true, false) := rfl

@[simp]
theorem shape_rejected : (rejected message).shape = (true, true) := rfl

@[simp]
theorem shape_abortEditing : abortEditing.shape = (false, true) := rfl

@[simp]
theorem shape_failure : failure.shape = (false, false) := rfl

end Reply

namespace Negotiation

variable {config : DeskConfig} {wording : Wording} {user : UserId} {mutation : Mutation}
  {submitted batch : List Subscription} {record : Record} {events : List Event}

/-! ### Every part of a negotiation writes down its trail -/

theorem trail_of_notices {told : List Event} {notices : List Notice}
    (htold : told.map Event.query = notices.map Query.notify) : trail told = [] :=
  trail_eq_nil (forall_of_notices (fun _ _ => rfl) htold)

theorem FlagsCourse.trail_eq {names : List SubscriptionName} {warnings : List String}
    (hflags : FlagsCourse user names events warnings) : trail events = [] :=
  trail_eq_nil (hflags.forall_mem (fun _ _ => rfl) (fun _ _ => rfl) fun _ _ => rfl)

theorem OverlapCourse.steps_of_ok {after : Record}
    (hcheck : OverlapCourse config batch record events (.ok after)) :
    after.steps = record.steps ++ trail events ∧ .actionExecuted ∉ trail events := by
  cases hcheck <;> simp [trail, Event.step?]

theorem StoresCourse.trail_eq (hstores : StoresCourse user batch events (.ok ())) :
    trail events = List.replicate batch.length .actionExecuted := by
  generalize hanswer : (Except.ok () : Except RegistryFault Unit) = answer at hstores
  induction hstores with
  | nil => rfl
  | refused => contradiction
  | stored _ ih =>
      rw [trail_cons_of_some rfl, ih hanswer]
      rfl

/-- What is stored as new is stored alone. -/
def StoresOne (mutation : Mutation) (batch : List Subscription) : Prop :=
  mutation = .create ∨ mutation = .createQuery → batch.length = 1

theorem MutationCourse.trail_eq {message : String} (hone : StoresOne mutation batch)
    (hmutation : MutationCourse user batch mutation events (.ok message)) :
    trail events = [.actionExecuted] := by
  generalize hanswer : (Except.ok message : Except RegistryFault String) = answer at hmutation
  cases hmutation with
  | @stored _ _ stored hnew hstores =>
      rcases stored with fault | ⟨⟩
      · contradiction
      · rw [hstores.trail_eq, hone hnew]
        rfl
  | updated updated =>
      rcases updated with fault | ⟨⟩
      · contradiction
      · rfl
  | given =>
      subst hanswer
      rfl

theorem ExecutionCourse.steps_eq {message : String} {after : Record}
    (hone : StoresOne mutation batch)
    (hexecute : ExecutionCourse mutation user batch record events (.ok (message, after))) :
    trail events = [.actionExecuted] ∧ after.steps = record.steps ++ trail events := by
  cases hexecute with
  | executed hchange =>
      have htrail := (runs_mutation.mp hchange).trail_eq hone
      exact ⟨htrail, by rw [htrail, Record.steps_push]⟩

theorem SettlementCourse.steps_eq {message : String} {settled : String × Record}
    (hsettle : SettlementCourse user batch message record events settled) :
    settled.2.steps = record.steps ++ trail events := by
  cases hsettle with
  | unconfirmed fault reset =>
      rw [Record.steps_afterReset]
      rfl
  | confirmed names hflags =>
      rw [trail_cons_of_some rfl, hflags.trail_eq]
      rfl

/-- What is written down from some steps on, and whether the reply is that of a change that was
made. -/
inductive Concluded (start : List Step) (events : List Event) (outcome : Outcome) : Prop where
  | made :
      .actionExecuted ∈ trail events → outcome.record.steps = start ++ trail events →
      outcome.reply.shape = (true, false) → Concluded start events outcome
  | unmade :
      .actionExecuted ∉ trail events →
      outcome.record.steps = start ++ (trail events ++ [.aborted]) →
      outcome.reply.shape ≠ (true, false) → Concluded start events outcome

namespace Concluded

variable {start between : List Step} {before others : List Event} {outcome told : Outcome}

theorem aborted {reply : Reply} {last : Record} (added : List Step)
    (htrail : trail events = added) (hadded : .actionExecuted ∉ added)
    (hsteps : last.steps = start ++ added) (hshape : reply.shape ≠ (true, false)) :
    Concluded start events (.aborted reply batch last) := by
  subst htrail
  refine .unmade hadded ?_ hshape
  change last.steps ++ [.aborted] = _
  rw [hsteps, List.append_assoc]

theorem prepend (hbefore : .actionExecuted ∉ trail before)
    (hbetween : between = start ++ trail before)
    (hconcluded : Concluded between events outcome) :
    Concluded start (before ++ events) outcome := by
  subst hbetween
  cases hconcluded with
  | made hmade hsteps hshape =>
      rw [List.append_assoc, ← trail_append] at hsteps
      exact .made (by simp [trail_append, hmade]) hsteps hshape
  | unmade hunmade hsteps hshape =>
      rw [List.append_assoc, ← List.append_assoc (trail before), ← trail_append] at hsteps
      exact .unmade (by simp [trail_append, hbefore, hunmade]) hsteps hshape

theorem congr (htrail : trail others = trail events) (hrecord : told.record = outcome.record)
    (hshape : told.reply.shape = outcome.reply.shape)
    (hconcluded : Concluded start events outcome) : Concluded start others told := by
  cases hconcluded with
  | made hmade hsteps hreply =>
      exact .made (htrail ▸ hmade) (by rw [hrecord, htrail, hsteps]) (hshape.trans hreply)
  | unmade hunmade hsteps hreply =>
      exact .unmade (htrail ▸ hunmade) (by rw [hrecord, htrail, hsteps]) (hshape ▸ hreply)

end Concluded

section Concluded

variable {outcome : Outcome}

theorem OverlapCourse.concluded
    (hcheck : OverlapCourse config batch record events (.error outcome)) :
    Concluded record.steps events outcome := by
  cases hcheck with
  | failed fault reset =>
      exact .aborted [.reinitialized] rfl (by simp) (by simp) (by simp)
  | duplicate names =>
      exact .aborted [.overlapChecked .duplicate] rfl (by simp) (by simp) (by simp)

theorem ForceCourse.concluded {plan : Plan} (hone : StoresOne mutation batch)
    (hforce : ForceCourse user mutation batch record plan events (.ok outcome)) :
    Concluded record.steps events outcome := by
  obtain ⟨told, change, settlement, message, executed, settled, rfl, htold, hexecute, hsettle,
    rfl⟩ := hforce.of_ok
  have hplanned : StoresOne mutation (plan.applyTo batch) := by
    intro hnew
    exact (length_eq_of_requests_eq Plan.requests_applyTo).trans (hone hnew)
  obtain ⟨hchange, hexecuted⟩ := hexecute.steps_eq hplanned
  have htrail : trail (told ++ (change ++ settlement)) = trail change ++ trail settlement := by
    rw [trail_append, trail_append, trail_of_notices htold, List.nil_append]
  have hsteps : settled.2.steps = record.steps ++ (trail change ++ trail settlement) := by
    rw [hsettle.steps_eq, hexecuted, record.steps_note, List.append_assoc]
  exact .made (by simp [htrail, hchange]) (htrail ▸ hsteps) rfl

theorem ProposalCourse.concluded (hone : StoresOne mutation batch)
    (hpropose : ProposalCourse config wording user mutation batch record events (.ok outcome)) :
    Concluded record.steps events outcome := by
  generalize hresult : (Except.ok outcome : Except ServiceFault Outcome) = result at hpropose
  cases hpropose with
  | failed fault reset =>
      cases hresult
      exact .aborted [.reinitialized] rfl (by simp) (by simp) (by simp)
  | @fits proposal change executed hfits hexecute =>
      obtain ⟨message, after, rfl, rfl⟩ := concluded_eq_ok_iff.mp hresult.symm
      obtain ⟨hchange, hsteps⟩ := hexecute.steps_eq hone
      have hmade : Concluded (record.proposed proposal).steps change
          ⟨.success message, batch, after⟩ :=
        .made (by simp [hchange]) hsteps rfl
      have hproposed : .actionExecuted ∉ trail [⟨.propose batch, .ok proposal⟩] := by
        simp [trail, Event.step?]
      exact hmade.prepend hproposed rfl
  | @abandoned proposal decision names hunfit hresolve =>
      cases hresult
      have hopened : trail (managerOpened names) = [] := by
        cases names <;> rfl
      refine .aborted [.proposed (UInt64.ofNat proposal.unscheduled.size), .prompted decision] ?_
        (by simp) (by simp) (by simp)
      rw [trail_cons_of_some rfl, trail_cons_of_some rfl, hopened]
  | @forced proposal decision plan change result hunfit hresolve hforce =>
      subst hresult
      have hasked : .actionExecuted ∉ trail
          [⟨.propose batch, .ok proposal⟩,
            ⟨.prompt (question config batch proposal) (choices config wording batch proposal),
              decision⟩] := by
        simp [trail, Event.step?]
      refine (hforce.concluded hone).prepend hasked ?_
      rw [Record.steps_noteDecision, Record.steps_proposed, List.append_assoc]
      rfl

theorem Course.concluded (hone : StoresOne mutation submitted) (hsome : submitted ≠ [])
    (hcourse : Course config wording user mutation submitted events (.ok outcome)) :
    Concluded [] events outcome := by
  have hcleared : StoresOne mutation (cleared submitted) := by
    intro hnew
    exact (length_eq_of_requests_eq requests_cleared).trans (hone hnew)
  cases hcourse with
  | empty hnil => exact absurd hnil hsome
  | stopped _ hcheck => exact hcheck.concluded
  | passed _ hcheck hpropose =>
      obtain ⟨hsteps, hchecked⟩ := hcheck.steps_of_ok
      exact (hpropose.concluded hcleared).prepend hchecked hsteps

end Concluded

end Negotiation

end SubscriptionDesk

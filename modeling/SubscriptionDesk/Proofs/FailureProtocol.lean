import SubscriptionDesk.Proofs.ChangeCourse
import SubscriptionDesk.Proofs.Tolerance

/-!
# What happens when somebody fails

A setback is a failure after which the bandwidth manager has to forget what was proposed. A
negotiation meets one setback at most and resets the bandwidth manager right after it. It ends with
an error only if the setback is the change itself, and then it ends there.
-/

namespace SubscriptionDesk

def Event.changeFault? : Event → Option RegistryFault
  | ⟨.registry (.store _ _), .error fault⟩ => some fault
  | ⟨.registry (.updateAll _ _), .error fault⟩ => some fault
  | ⟨.registry (.delete _ _), .error fault⟩ => some fault
  | ⟨.carryOut _, .error fault⟩ => some fault
  | _ => none

def Event.isSetback : Event → Bool
  | ⟨.checkOverlap _, .error _⟩ => true
  | ⟨.propose _, .error _⟩ => true
  | ⟨.schedule _, .error _⟩ => true
  | event => event.changeFault?.isSome

def resets (events : List Event) : Nat :=
  events.countP fun event => decide (event.query = .resetManager)

/-- Whether nothing in a run calls for a reset and none is made. -/
def Steady (events : List Event) : Prop :=
  ∀ event ∈ events, event.query ≠ .resetManager ∧ event.isSetback = false

inductive Handled : List Event → Except ServiceFault Outcome → Prop where
  | smooth {events : List Event} {outcome : Outcome} : Steady events → Handled events (.ok outcome)
  | setback {before after : List Event} {failed : Event} {outcome : Outcome}
      (reset : Except BandwidthFault Unit) :
      Steady before → failed.query ≠ .resetManager → failed.isSetback = true →
      failed.changeFault? = none → Steady after →
      Handled (before ++ failed :: ⟨.resetManager, reset⟩ :: after) (.ok outcome)
  | refused {before : List Event} {failed : Event} {fault : RegistryFault}
      (reset : Except BandwidthFault Unit) :
      Steady before → failed.query ≠ .resetManager → failed.changeFault? = some fault →
      Handled (before ++ [failed, ⟨.resetManager, reset⟩]) (.error (.registry fault))

section Steady

variable {first second events : List Event} {event : Event}

theorem Steady.nil : Steady [] := by simp [Steady]

theorem Steady.cons (hquery : event.query ≠ .resetManager) (hevent : event.isSetback = false)
    (hrest : Steady events) : Steady (event :: events) :=
  List.forall_mem_cons.mpr ⟨⟨hquery, hevent⟩, hrest⟩

theorem Steady.append (hfirst : Steady first) (hsecond : Steady second) :
    Steady (first ++ second) :=
  List.forall_mem_append.mpr ⟨hfirst, hsecond⟩

theorem Event.changeFault?_of_not_setback (hevent : event.isSetback = false) :
    event.changeFault? = none := by
  unfold isSetback at hevent
  split at hevent
  · contradiction
  · contradiction
  · contradiction
  · simpa using hevent

theorem Event.isSetback_of_changeFault? {fault : RegistryFault}
    (hevent : event.changeFault? = some fault) : event.isSetback = true := by
  by_contra hsteady
  rw [changeFault?_of_not_setback (by simpa using hsteady)] at hevent
  contradiction

theorem Steady.resets_eq_zero (hsteady : Steady events) : resets events = 0 := by
  refine List.countP_eq_zero.mpr fun event hevent => ?_
  simpa using (hsteady event hevent).1

theorem Steady.not_setback (hsteady : Steady events) :
    ¬∃ event ∈ events, event.isSetback = true := by
  rintro ⟨event, hevent, hsetback⟩
  rw [(hsteady event hevent).2] at hsetback
  contradiction

theorem resets_append : resets (first ++ second) = resets first + resets second :=
  List.countP_append

theorem resets_setback {failed : Event} {reset : Except BandwidthFault Unit}
    (hfailed : failed.query ≠ .resetManager) (hfirst : Steady first) (hsecond : Steady second) :
    resets (first ++ failed :: ⟨.resetManager, reset⟩ :: second) = 1 := by
  have hafter : resets (failed :: ⟨.resetManager, reset⟩ :: second) = resets second + 1 := by
    simp [resets, hfailed]
  rw [resets_append, hfirst.resets_eq_zero, hafter, hsecond.resets_eq_zero]

end Steady

namespace Handled

variable {before events : List Event} {result : Except ServiceFault Outcome}

theorem prepend (hbefore : Steady before) (hhandled : Handled events result) :
    Handled (before ++ events) result := by
  cases hhandled with
  | smooth hsteady => exact .smooth (hbefore.append hsteady)
  | setback reset hsteady hfailed hsetback hchange hafter =>
      rw [← List.append_assoc]
      exact .setback reset (hbefore.append hsteady) hfailed hsetback hchange hafter
  | refused reset hsteady hfailed hchange =>
      rw [← List.append_assoc]
      exact .refused reset (hbefore.append hsteady) hfailed hchange

theorem append {outcome told : Outcome} {after : List Event} (hafter : Steady after)
    (hhandled : Handled events (.ok outcome)) : Handled (events ++ after) (.ok told) := by
  cases hhandled with
  | smooth hsteady => exact .smooth (hsteady.append hafter)
  | setback reset hsteady hfailed hsetback hchange hrest =>
      rw [List.append_assoc]
      exact .setback reset hsteady hfailed hsetback hchange (hrest.append hafter)

theorem resets_eq_one (hhandled : Handled events result)
    (hsetback : ∃ event ∈ events, event.isSetback = true) : resets events = 1 := by
  cases hhandled with
  | smooth hsteady => exact absurd hsetback hsteady.not_setback
  | setback reset hsteady hfailed _ _ hafter => exact resets_setback hfailed hsteady hafter
  | refused reset hsteady hfailed => exact resets_setback hfailed hsteady .nil

theorem resets_eq_zero (hhandled : Handled events result)
    (hnone : ¬∃ event ∈ events, event.isSetback = true) : resets events = 0 := by
  cases hhandled with
  | smooth hsteady => exact hsteady.resets_eq_zero
  | setback reset _ _ hsetback => exact absurd ⟨_, by simp, hsetback⟩ hnone
  | refused reset _ _ hchange =>
      exact absurd ⟨_, by simp, Event.isSetback_of_changeFault? hchange⟩ hnone

theorem error_iff {fault : RegistryFault} (hhandled : Handled events result) :
    result = .error (.registry fault) ↔ ∃ event ∈ events, event.changeFault? = some fault := by
  cases hhandled with
  | smooth hsteady =>
      constructor
      · intro herror
        contradiction
      · rintro ⟨event, hevent, hchange⟩
        exact absurd ⟨event, hevent, Event.isSetback_of_changeFault? hchange⟩ hsteady.not_setback
  | @setback before after failed outcome reset hsteady _ _ hnone hafter =>
      constructor
      · intro herror
        contradiction
      · rintro ⟨event, hevent, hchange⟩
        have hsetback := Event.isSetback_of_changeFault? hchange
        rcases List.mem_append.mp hevent with hevent | hevent
        · exact absurd ⟨event, hevent, hsetback⟩ hsteady.not_setback
        rcases List.mem_cons.mp hevent with rfl | hevent
        · rw [hnone] at hchange
          contradiction
        rcases List.mem_cons.mp hevent with rfl | hevent
        · contradiction
        · exact absurd ⟨event, hevent, hsetback⟩ hafter.not_setback
  | @refused before failed cause reset hsteady _ hcause =>
      constructor
      · intro herror
        have heq : cause = fault := by simpa using herror
        exact ⟨failed, by simp, heq ▸ hcause⟩
      · rintro ⟨event, hevent, hchange⟩
        have hsetback := Event.isSetback_of_changeFault? hchange
        rcases List.mem_append.mp hevent with hevent | hevent
        · exact absurd ⟨event, hevent, hsetback⟩ hsteady.not_setback
        rcases List.mem_cons.mp hevent with rfl | hevent
        · rw [hcause] at hchange
          rw [Option.some.inj hchange]
        · obtain rfl := List.mem_singleton.mp hevent
          contradiction

end Handled

/-! ### Every negotiation handles its setback -/

namespace Negotiation

variable {config : DeskConfig} {wording : Wording} {user : UserId} {mutation : Mutation}
  {submitted batch : List Subscription} {record : Record} {events : List Event}

theorem steady_of_notices {told : List Event} {notices : List Notice}
    (htold : told.map Event.query = notices.map Query.notify) : Steady told :=
  forall_of_notices (fun _ _ => ⟨nofun, rfl⟩) htold

theorem OverlapCourse.steady {after : Record}
    (hcheck : OverlapCourse config batch record events (.ok after)) : Steady events := by
  cases hcheck <;> simp [Steady, Event.isSetback, Event.changeFault?]

theorem OverlapCourse.handled {outcome : Outcome}
    (hcheck : OverlapCourse config batch record events (.error outcome)) :
    Handled events (.ok outcome) := by
  cases hcheck with
  | failed fault reset => exact .setback reset .nil nofun rfl rfl .nil
  | duplicate => exact .smooth (by simp [Steady, Event.isSetback, Event.changeFault?])

theorem FlagsCourse.steady {names : List SubscriptionName} {warnings : List String}
    (hflags : FlagsCourse user names events warnings) : Steady events :=
  hflags.forall_mem (fun _ _ => ⟨nofun, rfl⟩) (fun _ _ => ⟨nofun, rfl⟩) fun _ _ => ⟨nofun, rfl⟩

theorem StoresCourse.steady (hstores : StoresCourse user batch events (.ok ())) :
    Steady events := by
  generalize hanswer : (Except.ok () : Except RegistryFault Unit) = answer at hstores
  induction hstores with
  | nil => exact .nil
  | refused => contradiction
  | stored _ ih => exact .cons nofun rfl (ih hanswer)

theorem StoresCourse.last_of_error {fault : RegistryFault}
    (hstores : StoresCourse user batch events (.error fault)) :
    ∃ before failed, events = before ++ [failed] ∧ Steady before ∧
      failed.query ≠ .resetManager ∧ failed.changeFault? = some fault := by
  generalize hanswer : (Except.error fault : Except RegistryFault Unit) = answer at hstores
  induction hstores with
  | nil => contradiction
  | refused cause =>
      obtain rfl : fault = cause := by simpa using hanswer
      exact ⟨[], _, rfl, .nil, nofun, rfl⟩
  | stored _ ih =>
      obtain ⟨before, failed, rfl, hsteady, hquery, hchange⟩ := ih hanswer
      exact ⟨_ :: before, failed, rfl, .cons nofun rfl hsteady, hquery, hchange⟩

theorem MutationCourse.steady {message : String}
    (hmutation : MutationCourse user batch mutation events (.ok message)) : Steady events := by
  rcases hmutation.of_ok with hstores | rfl | ⟨-, rfl⟩
  · exact hstores.steady
  · exact .cons nofun rfl .nil
  · exact .cons nofun rfl .nil

theorem MutationCourse.last_of_error {fault : RegistryFault}
    (hmutation : MutationCourse user batch mutation events (.error fault)) :
    ∃ before failed, events = before ++ [failed] ∧ Steady before ∧
      failed.query ≠ .resetManager ∧ failed.changeFault? = some fault := by
  rcases hmutation.of_error with ⟨-, hstores⟩ | ⟨-, rfl⟩ | ⟨-, rfl⟩
  · exact hstores.last_of_error
  · exact ⟨[], _, rfl, .nil, nofun, rfl⟩
  · exact ⟨[], _, rfl, .nil, nofun, rfl⟩

theorem ExecutionCourse.handled {executed : Except ServiceFault (String × Record)}
    (hexecute : ExecutionCourse mutation user batch record events executed) :
    Handled events (concluded batch executed) := by
  cases hexecute with
  | executed hchange => exact .smooth (runs_mutation.mp hchange).steady
  | refused reset hchange =>
      obtain ⟨before, failed, rfl, hsteady, hquery, hfault⟩ :=
        (runs_mutation.mp hchange).last_of_error
      rw [List.append_assoc]
      exact .refused reset hsteady hquery hfault

theorem SettlementCourse.handled {message : String} {settled : String × Record} {outcome : Outcome}
    (hsettle : SettlementCourse user batch message record events settled) :
    Handled events (.ok outcome) := by
  cases hsettle with
  | unconfirmed fault reset => exact .setback reset .nil nofun rfl rfl .nil
  | confirmed names hflags => exact .smooth (.cons nofun rfl hflags.steady)

theorem ForceCourse.handled {plan : Plan} {result : Except ServiceFault Outcome}
    (hforce : ForceCourse user mutation batch record plan events result) :
    Handled events result := by
  cases hforce with
  | settled htold hexecute hsettle =>
      refine .prepend (steady_of_notices htold) (.prepend ?_ hsettle.handled)
      cases hexecute with
      | executed hchange => exact (runs_mutation.mp hchange).steady
  | refused htold hexecute => exact .prepend (steady_of_notices htold) hexecute.handled

theorem ProposalCourse.handled {result : Except ServiceFault Outcome}
    (hpropose : ProposalCourse config wording user mutation batch record events result) :
    Handled events result := by
  cases hpropose with
  | failed fault reset => exact .setback reset .nil nofun rfl rfl .nil
  | @fits proposal change executed _ hexecute =>
      have hproposed : Steady [⟨.propose batch, .ok proposal⟩] := .cons nofun rfl .nil
      exact hexecute.handled.prepend hproposed
  | @abandoned proposal decision names =>
      refine .smooth (.cons nofun rfl (.cons nofun rfl ?_))
      cases names <;> simp [Steady, managerOpened, Event.isSetback, Event.changeFault?]
  | @forced proposal decision plan change result _ _ hforce =>
      have hasked : Steady [⟨.propose batch, .ok proposal⟩,
          ⟨.prompt (question config batch proposal) (choices config wording batch proposal),
            decision⟩] :=
        .cons nofun rfl (.cons nofun rfl .nil)
      exact hforce.handled.prepend hasked

theorem Course.handled {result : Except ServiceFault Outcome}
    (hcourse : Course config wording user mutation submitted events result) :
    Handled events result := by
  cases hcourse with
  | empty => exact .smooth .nil
  | stopped _ hcheck => exact hcheck.handled
  | passed _ hcheck hpropose => exact hpropose.handled.prepend hcheck.steady

end Negotiation

/-! ### The operation around it -/

namespace Operation

variable {config : DeskConfig} {wording : Wording} {user : UserId} {operation : Operation}
  {events : List Event} {negotiated result : Except ServiceFault Outcome}

/-- Whether nobody could tell if the name of a new subscription is free. -/
def LookupFailed (operation : Operation) (events : List Event) : Prop :=
  ∃ name fault, operation.newName? = some name ∧
    events.head? = some ⟨.registry (.find name), .error fault⟩

/-- Whether a run has met a failure after which the bandwidth manager has to forget what was
proposed. -/
def Setback (operation : Operation) (events : List Event) : Prop :=
  operation.LookupFailed events ∨
    operation.mutation? ≠ none ∧ ∃ event ∈ events, event.isSetback = true

/-- What a run comes to when somebody fails, by where the operation is. -/
inductive Fares (operation : Operation) :
    List Event → Except ServiceFault Outcome → Prop where
  | unknown {name : SubscriptionName} {outcome : Outcome} (fault : RegistryFault)
      (reset : Except BandwidthFault Unit) :
      operation.newName? = some name →
      Fares operation [⟨.registry (.find name), .error fault⟩, ⟨.resetManager, reset⟩] (.ok outcome)
  | handled {events : List Event} {result : Except ServiceFault Outcome} :
      ¬operation.LookupFailed events → operation.mutation? ≠ none ∨ Steady events →
      Handled events result → Fares operation events result
  | refused {failed : Event} {fault : RegistryFault} :
      operation.mutation? = none → operation.newName? = none → failed.query ≠ .resetManager →
      failed.changeFault? = some fault →
      Fares operation [failed] (.error (.registry fault))

theorem FollowUp.handled {negotiation : List Event}
    (hfollow : operation.FollowUp user negotiated events result)
    (hhandled : Handled negotiation negotiated) : Handled (negotiation ++ events) result := by
  have hsteady : Steady events :=
    hfollow.forall_mem (fun _ _ => ⟨nofun, rfl⟩) (fun _ _ => ⟨nofun, rfl⟩) fun _ _ => ⟨nofun, rfl⟩
  cases hfollow with
  | refused => rwa [List.append_nil]
  | unchanged | changed => exact hhandled.append hsteady

theorem Course.fares (hcourse : operation.Course config wording user events result) :
    operation.Fares events result := by
  cases hcourse with
  | invalid => exact .handled (by simp [LookupFailed]) (.inr .nil) (.smooth .nil)
  | taken found hvalid hname =>
      refine .handled (by simp [LookupFailed]) ?_ (.smooth ?_)
      · exact .inr (.cons (by simp) rfl .nil)
      · exact .cons (by simp) rfl .nil
  | unknown fault reset hvalid hname => exact .unknown fault reset hname
  | @negotiated operation mutation negotiation tail negotiated result hvalid hmutation hnegotiation
      hfollow =>
      have hlookup : Steady operation.lookup := by
        unfold lookup
        cases operation.newName? <;> simp [Steady, Event.isSetback, Event.changeFault?]
      have hfound : ¬operation.LookupFailed (operation.lookup ++ (negotiation ++ tail)) := by
        rintro ⟨name, fault, hname, hhead⟩
        simp [lookup, hname] at hhead
      exact .handled hfound (.inl (by simp [hmutation]))
        ((hfollow.handled hnegotiation.handled).prepend hlookup)
  | nothing => exact .handled (by simp [LookupFailed]) (.inr .nil) (.smooth .nil)
  | @deactivated batch told hsome htold =>
      have hsteady : Steady
          (⟨.registry (.updateAll user (batch.map Subscription.deactivate)), .ok ()⟩ :: told) :=
        .cons (by simp) rfl (Negotiation.steady_of_notices htold)
      exact .handled (by simp [LookupFailed, newName?]) (.inr hsteady) (.smooth hsteady)
  | notDeactivated fault => exact .refused rfl rfl (by simp) rfl
  | @deleted batch told hsome htold =>
      have hsteady : Steady
          (⟨.registry (.delete user (batch.map Subscription.markDeleted)), .ok ()⟩ :: told) :=
        .cons (by simp) rfl (Negotiation.steady_of_notices htold)
      exact .handled (by simp [LookupFailed, newName?]) (.inr hsteady) (.smooth hsteady)
  | notDeleted fault => exact .refused rfl rfl (by simp) rfl

namespace Fares

theorem error_iff {fault : RegistryFault} (hfares : operation.Fares events result) :
    result = .error (.registry fault) ↔ ∃ event ∈ events, event.changeFault? = some fault := by
  cases hfares with
  | unknown cause reset =>
      constructor
      · intro herror
        contradiction
      · rintro ⟨event, hevent, hchange⟩
        simp only [List.mem_cons, List.not_mem_nil, or_false] at hevent
        rcases hevent with rfl | rfl <;> contradiction
  | handled _ _ hhandled => exact hhandled.error_iff
  | refused _ _ _ hcause =>
      simp [hcause]

theorem resets_eq_one (hfares : operation.Fares events result)
    (hsetback : operation.Setback events) : resets events = 1 := by
  cases hfares with
  | unknown fault reset => rfl
  | handled hfound hsteady hhandled =>
      rcases hsetback with hlookup | ⟨-, hsome⟩
      · exact absurd hlookup hfound
      · exact hhandled.resets_eq_one hsome
  | refused hdirect hname =>
      rcases hsetback with ⟨name, fault, hnew, -⟩ | ⟨hnegotiated, -⟩
      · rw [hname] at hnew
        contradiction
      · exact absurd hdirect hnegotiated

theorem resets_eq_zero (hfares : operation.Fares events result)
    (hnone : ¬operation.Setback events) : resets events = 0 := by
  cases hfares with
  | unknown fault reset hname => exact absurd (.inl ⟨_, fault, hname, rfl⟩) hnone
  | handled hfound hsteady hhandled =>
      rcases hsteady with hnegotiated | hsteady
      · exact hhandled.resets_eq_zero fun hsome => hnone (.inr ⟨hnegotiated, hsome⟩)
      · exact hsteady.resets_eq_zero
  | refused hdirect hname hquery => simp [resets, hquery]

/-- A negotiation that ends with an error ends with the reset after the change that failed. -/
theorem last_of_error {fault : ServiceFault} (hnegotiated : operation.mutation? ≠ none)
    (hfares : operation.Fares events (.error fault)) :
    ∃ before failed reset cause, events = before ++ [failed, ⟨.resetManager, reset⟩] ∧
      failed.changeFault? = some cause ∧ fault = .registry cause := by
  cases hfares with
  | handled _ _ hhandled =>
      cases hhandled with
      | refused reset _ _ hchange => exact ⟨_, _, reset, _, rfl, hchange, rfl⟩
  | refused hdirect => exact absurd hdirect hnegotiated

end Fares

end Operation

/-! ### The protocol -/

/-- Records that differ in nothing but their warnings. -/
def Record.SameButWarnings (first second : Record) : Prop :=
  { first with warnings := [] } = { second with warnings := [] }

theorem tolerant_resetManager : Tolerant (· = .resetManager) Record.SameButWarnings where
  housekeeping query hquery := .inl hquery
  refl record := rfl
  push := by
    rintro ⟨steps, changes, _, names⟩ ⟨_, _, _, _⟩ step hsame
    cases hsame
    rfl
  executed := by
    rintro ⟨steps, changes, _, names⟩ ⟨_, _, _, _⟩ hsame
    cases hsame
    rfl
  reset _ record first second := by
    rcases first with fault | ⟨⟩ <;> rcases second with other | ⟨⟩ <;> rfl

/-- What a run of an operation comes to when somebody fails in it. -/
structure FailureProtocol (config : DeskConfig) (wording : Wording) (user : UserId)
    (operation : Operation) (events : List Event) (result : Except ServiceFault Outcome) :
    Prop where
  refused : ∀ fault, result = .error (.registry fault) ↔
    ∃ event ∈ events, event.changeFault? = some fault
  resetOnce : operation.Setback events → resets events = 1
  resetNever : ¬operation.Setback events → resets events = 0
  /-- Turning off and deleting propose nothing, so that there is nothing to forget. -/
  direct : operation.mutation? = none → resets events = 0
  /-- With an error the reset comes right after the change that failed, and nothing after it. -/
  resetLast : operation.mutation? ≠ none → ∀ fault, result = .error fault →
    ∃ before failed reset cause, events = before ++ [failed, ⟨.resetManager, reset⟩] ∧
      failed.changeFault? = some cause ∧ fault = .registry cause
  /-- Had the reset gone otherwise, only the warnings would differ. -/
  resetIgnored : ∀ others, List.Forall₂ (Dialogue.SameBut (· = .resetManager)) events others →
    ∃ ending, Dialogue.Runs (operation.run config wording user) others ending ∧
      SameResult Record.SameButWarnings result ending

section Protocol

variable {config : DeskConfig} {wording : Wording} {user : UserId} {operation : Operation}
  {events : List Event} {result : Except ServiceFault Outcome}

theorem Operation.not_setback_of_direct (hdirect : operation.mutation? = none) :
    ¬operation.Setback events := by
  rintro (⟨name, fault, hname, -⟩ | ⟨hnegotiated, -⟩)
  · cases operation <;> contradiction
  · exact hnegotiated hdirect

/-- **The failure protocol.** It is kept by every run of every operation. -/
theorem Operation.failureProtocol_of_runs
    (hruns : Dialogue.Runs (operation.run config wording user) events result) :
    FailureProtocol config wording user operation events result := by
  have hfares : operation.Fares events result := (course_of_runs hruns).fares
  constructor
  case refused => exact fun fault => hfares.error_iff
  case resetOnce => exact hfares.resets_eq_one
  case resetNever => exact hfares.resets_eq_zero
  case direct => exact fun hdirect => hfares.resets_eq_zero (not_setback_of_direct hdirect)
  case resetLast =>
    rintro hnegotiated fault rfl
    exact hfares.last_of_error hnegotiated
  case resetIgnored =>
    intro others hsame
    exact (tolerant_resetManager.alike_operation operation).runs hruns hsame

end Protocol

def refusedUpdateRun : List Event × Except ServiceFault Outcome × Rehearsal :=
  ((Operation.update (.sample "winds")).run .standard standardWording ⟨"user"⟩).converse
    Rehearsal.respond
    (.scripted [.sample "winds"]
      { Script.crowded .forceApplyUnscheduled [] with
        faults := [("registry.update_all", [some "disk full"]),
          ("bandwidth.reinitialize", [some "gone"])] })

theorem failureProtocol_refusedUpdate :
    Dialogue.Runs ((Operation.update (.sample "winds")).run .standard standardWording ⟨"user"⟩)
        refusedUpdateRun.1 refusedUpdateRun.2.1 ∧
      FailureProtocol .standard standardWording ⟨"user"⟩ (.update (.sample "winds"))
        refusedUpdateRun.1 refusedUpdateRun.2.1 ∧
      refusedUpdateRun.1.map (fun event => event.query.label) =
        ["overlap.check", "prompt.message", "bandwidth.propose", "prompt.force_apply",
          "registry.update_all", "bandwidth.reinitialize"] ∧
      refusedUpdateRun.2.1 = .error (.registry ⟨"disk full"⟩) :=
  ⟨Dialogue.runs_converse .., Operation.failureProtocol_of_runs (Dialogue.runs_converse ..),
    by decide +kernel, by decide +kernel⟩

end SubscriptionDesk

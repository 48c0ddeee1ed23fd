import SubscriptionDesk.Broker
import SubscriptionDesk.Registry

namespace SubscriptionDesk

def RegistryCall.label : RegistryCall → String
  | .store _ _ => "registry.store"
  | .update _ _ => "registry.update"
  | .updateAll _ _ => "registry.update_all"
  | .delete _ _ => "registry.delete"
  | .find _ => "registry.get_by_name"

def Query.label : Query → String
  | .registry call => call.label
  | .checkOverlap _ => "overlap.check"
  | .propose _ => "bandwidth.propose"
  | .schedule _ => "bandwidth.schedule"
  | .resetManager => "bandwidth.reinitialize"
  | .statusSummary _ => "bandwidth.summary"
  | .estimate _ => "bandwidth.estimate"
  | .notify _ => "notify"
  | .prompt _ _ => "prompt.force_apply"
  | .showMessage _ _ => "prompt.message"
  | .openManager _ => "prompt.open_manager"
  | .carryOut _ => "action"

def RegistryCall.refusal (call : RegistryCall) (fault : RegistryFault) : call.Answer :=
  match call with
  | .store _ _ => .error fault
  | .update _ _ => .error fault
  | .updateAll _ _ => .error fault
  | .delete _ _ => .error fault
  | .find _ => .error fault

structure Script where
  proposals : List Proposal
  schedules : List (NameSet .subscription)
  summaries : List StatusSummary
  estimates : List (Option Int64)
  overlaps : List OverlapReport
  decisions : List Decision
  /-- For the name of a call, which of the next calls fail, and why. -/
  faults : List (String × List (Option String))
  completion : String

namespace Script

def empty : Script where
  proposals := []
  schedules := []
  summaries := []
  estimates := []
  overlaps := []
  decisions := []
  faults := []
  completion := "done"

def setFaults (script : Script) (name : String) (queue : List (Option String)) : Script :=
  { script with
    faults := (name, queue) :: script.faults.filter fun entry => entry.1 != name }

def takeFault (script : Script) (name : String) : Option String × Script :=
  match (script.faults.find? fun entry => entry.1 == name).map Prod.snd with
  | some (fault :: rest) => (fault, script.setFaults name rest)
  | _ => (none, script)

end Script

structure Rehearsal where
  registry : Registry
  script : Script
  detectsOverlap : Bool
  board : Option Switchboard

namespace Rehearsal

def plainSummary (subscription : Subscription) : StatusSummary :=
  { StatusSummary.empty with latencyMinutes := subscription.latency, dataSizeKb := 512 }

def publish (rehearsal : Rehearsal) (notice : Notice) : Except NoticeFault Unit × Rehearsal :=
  match rehearsal.board with
  | none => (.ok (), rehearsal)
  | some board =>
      let (sent, board) := (Switchboard.send notice).run board
      let answer := match sent with
        | .ok answer => answer
        | .error .abort => .error ⟨"aborted"⟩
      (answer, { rehearsal with board := some board })

def reply : (query : Query) → Rehearsal → query.Answer × Rehearsal
  | .registry call, rehearsal =>
      let (answer, registry) := rehearsal.registry.serve call
      (answer, { rehearsal with registry := registry })
  | .checkOverlap candidates, rehearsal =>
      if rehearsal.detectsOverlap then (.ok (rehearsal.registry.checkOverlap candidates), rehearsal)
      else
        (.ok (rehearsal.script.overlaps.headD .clear),
          { rehearsal with script.overlaps := rehearsal.script.overlaps.tail })
  | .propose _, rehearsal =>
      (.ok (rehearsal.script.proposals.headD .fits),
        { rehearsal with script.proposals := rehearsal.script.proposals.tail })
  | .schedule _, rehearsal =>
      (.ok (rehearsal.script.schedules.headD .empty),
        { rehearsal with script.schedules := rehearsal.script.schedules.tail })
  | .resetManager, rehearsal => (.ok (), rehearsal)
  | .statusSummary subscription, rehearsal =>
      (.ok (rehearsal.script.summaries.headD (plainSummary subscription)),
        { rehearsal with script.summaries := rehearsal.script.summaries.tail })
  | .estimate _, rehearsal =>
      (.ok (rehearsal.script.estimates.headD none),
        { rehearsal with script.estimates := rehearsal.script.estimates.tail })
  | .notify notice, rehearsal => rehearsal.publish notice
  | .prompt _ _, rehearsal =>
      (rehearsal.script.decisions.headD .cancel,
        { rehearsal with script.decisions := rehearsal.script.decisions.tail })
  | .showMessage _ _, rehearsal => ((), rehearsal)
  | .openManager _, rehearsal => ((), rehearsal)
  | .carryOut _, rehearsal => (.ok rehearsal.script.completion, rehearsal)

def failure? (reason : String) : (query : Query) → Option query.Answer
  | .registry call => some (call.refusal ⟨reason⟩)
  | .checkOverlap _ => some (.error ⟨reason⟩)
  | .propose _ => some (.error ⟨reason⟩)
  | .schedule _ => some (.error ⟨reason⟩)
  | .resetManager => some (.error ⟨reason⟩)
  | .statusSummary _ => some (.error ⟨reason⟩)
  | .estimate _ => some (.error ⟨reason⟩)
  | .notify _ => some (.error ⟨reason⟩)
  | .prompt _ _ => none
  | .showMessage _ _ => none
  | .openManager _ => none
  | .carryOut _ => some (.error ⟨reason⟩)

/-- Fails where that is laid down; a call that fails uses up no other answer. -/
def respond : Dialogue.Respondent Rehearsal := fun query rehearsal =>
  let (fault, script) := rehearsal.script.takeFault query.label
  match fault.bind fun reason => failure? reason query with
  | some answer => (answer, { rehearsal with script := script })
  | none => reply query { rehearsal with script := script }

end Rehearsal

def Wording.overridden (base : Wording) (texts : List (Decision × Option String)) : Wording :=
  fun decision requiredLatency subject unscheduled =>
    match texts.find? fun entry => decide (entry.1 = decision) with
    | some (_, text) =>
        text.map fun text => text.replace "\x7blatency\x7d" (toString requiredLatency)
    | none => base decision requiredLatency subject unscheduled

end SubscriptionDesk

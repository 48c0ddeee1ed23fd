import SubscriptionDesk.Change
import SubscriptionDesk.Prompt

namespace SubscriptionDesk

structure StatusSummary where
  startMillis : Option Int64
  endMillis : Option Int64
  latencyMinutes : UInt32
  dataSizeKb : UInt64
  estimatedCompletionMillis : Option Int64
  deriving DecidableEq

def StatusSummary.empty : StatusSummary := ⟨none, none, 0, 0, none⟩

structure Reply where
  message : Option String
  allowFurtherEditing : Bool
  statusSummary : Option StatusSummary
  deriving DecidableEq

namespace Reply

def success (message : String) : Reply := ⟨some message, false, none⟩

def rejected (message : String) : Reply := ⟨some message, true, none⟩

def abortEditing : Reply := ⟨none, true, none⟩

def failure : Reply := ⟨none, false, none⟩

def withStatusSummary (reply : Reply) (summary : StatusSummary) : Reply :=
  { reply with statusSummary := some summary }

end Reply

inductive Step where
  | rejected
  | overlapChecked (kind : OverlapKind)
  | proposed (unscheduled : UInt64)
  | prompted (decision : Decision)
  | actionExecuted
  | scheduled (unscheduled : UInt64)
  | reinitialized
  | aborted
  deriving DecidableEq

def Step.decision? : Step → Option Decision
  | .prompted decision => some decision
  | _ => none

structure Record where
  steps : List Step
  changes : List Change
  warnings : List String
  unscheduledAfterSchedule : NameSet .subscription
  deriving DecidableEq

namespace Record

def empty : Record := ⟨[], [], [], .empty⟩

def push (record : Record) (step : Step) : Record :=
  { record with steps := record.steps ++ [step] }

def warn (record : Record) (warning : String) : Record :=
  { record with warnings := record.warnings ++ [warning] }

def note (record : Record) (plan : Plan) : Record :=
  { record with
    changes := record.changes ++ plan.changes
    warnings := record.warnings ++ plan.warnings }

def actionExecuted (record : Record) : Bool := record.steps.contains .actionExecuted

def prompted (record : Record) : Bool := record.steps.any fun step => step.decision?.isSome

def decision? (record : Record) : Option Decision := record.steps.findSome? Step.decision?

end Record

/-- What an operation returns: the reply, the batch as it was stored or submitted, and the audit
trail. -/
structure Outcome where
  reply : Reply
  subscriptions : List Subscription
  record : Record
  deriving DecidableEq

end SubscriptionDesk

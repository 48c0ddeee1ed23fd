import SubscriptionDesk.Change
import SubscriptionDesk.Prompt

namespace SubscriptionDesk

inductive Resolution where
  | abort (openManagerFor : Option (NameSet .subscription))
  | apply (plan : Plan)
  deriving DecidableEq

namespace Plan

/-- Only the first subscription of a batch gets the higher latency. -/
def raiseLatency (first : Subscription) (batchSize : Nat) (required : UInt32) : Plan where
  changes := [.latencyChanged first.name first.latency required, .activated first.name]
  warnings :=
    if 1 < batchSize then
      ["latency increase chosen for a batch of " ++ toString batchSize ++
        " subscriptions; only the first is changed"]
    else []

def leaveUnscheduled (batch : List Subscription) : Plan where
  changes := batch.map fun subscription => .markedUnscheduled subscription.name
  warnings := []

def leaveDeactivated (batch : List Subscription) : Plan where
  changes := batch.flatMap fun subscription =>
    [.markedUnscheduled subscription.name, .deactivated subscription.name]
  warnings := []

end Plan

/-- A required latency that is no increase ends the negotiation as cancelling does. -/
def Resolution.ofLatency (batch : List Subscription) (required : UInt32) : Resolution :=
  match batch with
  | [] => .apply .empty
  | first :: _ =>
      if required ≤ first.latency then .abort none
      else .apply (.raiseLatency first batch.length required)

def Decision.resolve (decision : Decision) (batch : List Subscription) (proposal : Proposal)
    (configuration : PromptConfiguration) : Resolution :=
  match decision with
  | .cancel => .abort none
  | .increaseLatency => .ofLatency batch (configuration.latencyInQuestion proposal)
  | .editSubscriptions =>
      .abort (if configuration.onlySubject then none else some configuration.wouldBeUnscheduled)
  | .forceApplyDeactivated => .apply (.leaveDeactivated batch)
  | .forceApplyUnscheduled => .apply (.leaveUnscheduled batch)

end SubscriptionDesk

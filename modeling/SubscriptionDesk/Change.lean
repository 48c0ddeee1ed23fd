import SubscriptionDesk.Subscription

namespace SubscriptionDesk

inductive Change where
  | clearedUnscheduled (name : SubscriptionName)
  | latencyChanged (name : SubscriptionName) (before after : UInt32)
  | activated (name : SubscriptionName)
  | markedUnscheduled (name : SubscriptionName)
  | deactivated (name : SubscriptionName)
  deriving DecidableEq

namespace Change

def name : Change → SubscriptionName
  | .clearedUnscheduled name => name
  | .latencyChanged name _ _ => name
  | .activated name => name
  | .markedUnscheduled name => name
  | .deactivated name => name

def effect : Change → Subscription → Subscription
  | .clearedUnscheduled _, subscription => subscription.markUnscheduled false
  | .latencyChanged _ _ after, subscription => subscription.withLatency after
  | .activated _, subscription => subscription.activate
  | .markedUnscheduled _, subscription => subscription.markUnscheduled true
  | .deactivated _, subscription => subscription.deactivate

/-- Changes a subscription that has the name and leaves every other one as it is. -/
def applyTo (change : Change) (subscription : Subscription) : Subscription :=
  if subscription.name = change.name then change.effect subscription else subscription

end Change

structure Plan where
  changes : List Change
  warnings : List String
  deriving DecidableEq

namespace Plan

def empty : Plan := ⟨[], []⟩

def applyTo (plan : Plan) (batch : List Subscription) : List Subscription :=
  plan.changes.foldl (fun batch change => batch.map change.applyTo) batch

def latencyChange? (plan : Plan) : Option (SubscriptionName × UInt32 × UInt32) :=
  plan.changes.findSome? fun change =>
    match change with
    | .latencyChanged name before after => some (name, before, after)
    | _ => none

@[simp]
theorem applyTo_empty (batch : List Subscription) : empty.applyTo batch = batch := rfl

theorem applyTo_cons (change : Change) (changes : List Change) (warnings : List String)
    (batch : List Subscription) :
    (Plan.mk (change :: changes) warnings).applyTo batch =
      (Plan.mk changes warnings).applyTo (batch.map change.applyTo) := rfl

end Plan

end SubscriptionDesk

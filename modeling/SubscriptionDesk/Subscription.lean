import SubscriptionDesk.Envelope
import SubscriptionDesk.Name
import SubscriptionDesk.Priority
import SubscriptionDesk.RequestedTimes

namespace SubscriptionDesk

inductive Activity where
  | on
  | off
  deriving DecidableEq

inductive Recurrence where
  | recurring
  | adhoc
  deriving DecidableEq

structure Subscription where
  name : SubscriptionName
  owner : UserId
  offices : NameSet .office
  provider : ProviderName
  dataSet : DataSetName
  dataType : DataType
  times : RequestedTimes
  coverage : Envelope
  priority : Priority
  latency : UInt32
  activePeriod : Option Period
  subscriptionPeriod : Option Period
  activity : Activity
  unscheduled : Bool
  deleted : Bool
  recurrence : Recurrence
  deriving DecidableEq

def minutesPerDay : UInt32 := 24 * 60

namespace Subscription

def create (name : SubscriptionName) (owner : UserId) (provider : ProviderName)
    (dataSet : DataSetName) (dataType : DataType) (times : RequestedTimes)
    (coverage : Envelope) : Subscription where
  name := name
  owner := owner
  offices := .empty
  provider := provider
  dataSet := dataSet
  dataType := dataType
  times := times
  coverage := coverage
  priority := .normal
  latency := 0
  activePeriod := none
  subscriptionPeriod := none
  activity := .on
  unscheduled := false
  deleted := false
  recurrence := .recurring

def withPriority (subscription : Subscription) (priority : Priority) : Subscription :=
  { subscription with priority := priority }

def withLatency (subscription : Subscription) (latency : UInt32) : Subscription :=
  { subscription with latency := latency }

def asAdhoc (subscription : Subscription) : Subscription :=
  { subscription with recurrence := .adhoc }

def activate (subscription : Subscription) : Subscription :=
  { subscription with activity := .on }

def deactivate (subscription : Subscription) : Subscription :=
  { subscription with activity := .off }

def markDeleted (subscription : Subscription) : Subscription :=
  { subscription with deleted := true, activity := .off }

def markUnscheduled (subscription : Subscription) (unscheduled : Bool) : Subscription :=
  { subscription with unscheduled := unscheduled }

def isActive (subscription : Subscription) : Bool := decide (subscription.activity = .on)

def isAdhoc (subscription : Subscription) : Bool := decide (subscription.recurrence = .adhoc)

def checkPeriod (field : String) : Option Period → Except SubscriptionFault Unit
  | some period => period.check field
  | none => .ok ()

/-- Looks at the fields in a fixed order and reports the first that is not valid. -/
def check (subscription : Subscription) : Except SubscriptionFault Unit := do
  if (Text.trimmedChars subscription.name.text.toList).isEmpty then .error .emptyName
  subscription.coverage.check
  subscription.times.check
  checkPeriod "active period" subscription.activePeriod
  checkPeriod "subscription period" subscription.subscriptionPeriod

def maximumLatency (subscription : Subscription) (default : UInt32) : UInt32 :=
  subscription.times.maximumLatency default

def sameDataSet (subscription other : Subscription) : Bool :=
  decide (subscription.provider = other.provider) &&
    decide (subscription.dataSet = other.dataSet) &&
    decide (subscription.dataType = other.dataType)

end Subscription

end SubscriptionDesk

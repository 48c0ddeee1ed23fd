import SubscriptionDesk.Stored
import SubscriptionDesk.Subscription

namespace SubscriptionDesk

open Stored

/-- The word that stands for a priority in stored subscriptions. -/
def Priority.key : Priority → String
  | .high => "high"
  | .normal => "normal"
  | .low => "low"

def Activity.key : Activity → String
  | .on => "on"
  | .off => "off"

def Recurrence.key : Recurrence → String
  | .recurring => "recurring"
  | .adhoc => "adhoc"

instance : Stored Priority where
  toJson priority := .text priority.key
  ofJson? _ := ofLabel? Priority.all Priority.key

instance : Stored Activity where
  toJson activity := .text activity.key
  ofJson? _ := ofLabel? [.on, .off] Activity.key

instance : Stored Recurrence where
  toJson recurrence := .text recurrence.key
  ofJson? _ := ofLabel? [.recurring, .adhoc] Recurrence.key

instance : Stored Envelope where
  toJson box := .object [("min_x", toJson box.minX), ("min_y", toJson box.minY),
    ("max_x", toJson box.maxX), ("max_y", toJson box.maxY)]
  ofJson? room json := do
    match ← fields? ["min_x", "min_y", "max_x", "max_y"] json with
    | [minX, minY, maxX, maxY] =>
        return ⟨← required? room minX, ← required? room minY, ← required? room maxX,
          ← required? room maxY⟩
    | _ => none

def Period.members (period : Period) : List (String × Json) :=
  [("start_millis", toJson period.startMillis), ("end_millis", toJson period.endMillis)]

instance : Stored Period where
  toJson period := .object period.members
  ofJson? room json := do
    match ← fields? ["start_millis", "end_millis"] json with
    | [startMillis, endMillis] =>
        return ⟨← required? room startMillis, ← required? room endMillis⟩
    | _ => none

instance : Stored RequestedTimes where
  toJson
    | .recurring cycleHours forecastHours =>
        withTag "kind" "recurring"
          [("cycle_hours", toJson cycleHours), ("forecast_hours", toJson forecastHours)]
    | .range period => withTag "kind" "range" period.members
  ofJson? room json := do
    match ← tagged? "kind" room json with
    | ("recurring", rest) =>
        match ← fields? ["cycle_hours", "forecast_hours"] rest with
        | [cycleHours, forecastHours] =>
            return .recurring (← required? room cycleHours) (← required? room forecastHours)
        | _ => none
    | ("range", rest) => return .range (← ofJson? room rest)
    | _ => none

def Subscription.keys : List String :=
  ["name", "owner", "office_ids", "provider", "data_set", "data_type", "time", "coverage",
    "priority", "latency_in_minutes", "active_period", "subscription_period", "state",
    "unscheduled", "deleted", "kind"]

instance : Stored Subscription where
  toJson subscription := .object [
    ("name", toJson subscription.name),
    ("owner", toJson subscription.owner),
    ("office_ids", toJson subscription.offices),
    ("provider", toJson subscription.provider),
    ("data_set", toJson subscription.dataSet),
    ("data_type", toJson subscription.dataType),
    ("time", toJson subscription.times),
    ("coverage", toJson subscription.coverage),
    ("priority", toJson subscription.priority),
    ("latency_in_minutes", toJson subscription.latency),
    ("active_period", toJson subscription.activePeriod),
    ("subscription_period", toJson subscription.subscriptionPeriod),
    ("state", toJson subscription.activity),
    ("unscheduled", toJson subscription.unscheduled),
    ("deleted", toJson subscription.deleted),
    ("kind", toJson subscription.recurrence)]
  ofJson? room json := do
    match ← fields? Subscription.keys json with
    | [name, owner, offices, provider, dataSet, dataType, times, coverage, priority, latency,
        activePeriod, subscriptionPeriod, activity, unscheduled, deleted, recurrence] =>
        return {
          name := ← required? room name
          owner := ← required? room owner
          offices := ← required? room offices
          provider := ← required? room provider
          dataSet := ← required? room dataSet
          dataType := ← required? room dataType
          times := ← required? room times
          coverage := ← required? room coverage
          priority := ← required? room priority
          latency := ← required? room latency
          activePeriod := ← optional? room activePeriod
          subscriptionPeriod := ← optional? room subscriptionPeriod
          activity := ← required? room activity
          unscheduled := ← required? room unscheduled
          deleted := ← required? room deleted
          recurrence := ← required? room recurrence }
    | _ => none

end SubscriptionDesk

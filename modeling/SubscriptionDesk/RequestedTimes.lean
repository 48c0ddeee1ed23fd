import SubscriptionDesk.AscendingSet
import SubscriptionDesk.Fault

namespace SubscriptionDesk

structure Period where
  startMillis : Int64
  endMillis : Int64
  deriving DecidableEq

def Period.isInverted (period : Period) : Bool := decide (period.endMillis < period.startMillis)

def Period.check (period : Period) (field : String) : Except SubscriptionFault Unit :=
  if period.isInverted then .error (.periodInverted field) else .ok ()

inductive RequestedTimes where
  | recurring (cycleHours : AscendingSet UInt8) (forecastHours : AscendingSet UInt16)
  | range (period : Period)
  deriving DecidableEq

namespace RequestedTimes

def hoursPerDay : UInt8 := 24

def check : RequestedTimes → Except SubscriptionFault Unit
  | .recurring cycleHours _ =>
      if cycleHours.isEmpty then .error .noCycleHour
      else if cycleHours.members.any fun hour => hoursPerDay ≤ hour then
        .error .cycleHourOutOfRange
      else .ok ()
  | .range period => if period.isInverted then .error .timeRangeInverted else .ok ()

def covers : RequestedTimes → RequestedTimes → Bool
  | .recurring cycleHours forecastHours, .recurring otherCycles otherForecasts =>
      cycleHours.includes otherCycles && forecastHours.includes otherForecasts
  | .range period, .range other =>
      decide (period.startMillis ≤ other.startMillis) && decide (other.endMillis ≤ period.endMillis)
  | _, _ => false

def gaps : List Nat → List Nat
  | first :: second :: rest => (second - first) :: gaps (second :: rest)
  | _ => []

/-- The fewest hours from one cycle to the next, counting on past midnight. -/
def smallestGap? : List Nat → Option Nat
  | first :: second :: rest =>
      let last := (second :: rest).getLast (List.cons_ne_nil second rest)
      some ((gaps (first :: second :: rest)).foldl min (first + 24 - last))
  | _ => none

def cycles : RequestedTimes → List Nat
  | .recurring cycleHours _ =>
      (cycleHours.members.filter fun hour => hour < hoursPerDay).map UInt8.toNat
  | .range _ => []

/-- The minutes in which a cycle must be retrieved so that it is done when the next one starts. -/
def maximumLatency (times : RequestedTimes) (default : UInt32) : UInt32 :=
  match smallestGap? times.cycles with
  | some hours => UInt32.ofNat (60 * hours)
  | none => default

end RequestedTimes

end SubscriptionDesk

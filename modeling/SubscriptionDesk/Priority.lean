import SubscriptionDesk.Fault
import SubscriptionDesk.Text.Blank
import SubscriptionDesk.Text.Digits

namespace SubscriptionDesk

/-- The urgency of a subscription; the lower number is scheduled first. -/
inductive Priority where
  | high
  | normal
  | low
  deriving DecidableEq

namespace Priority

def all : List Priority := [.high, .normal, .low]

def number : Priority → UInt8
  | .high => 1
  | .normal => 2
  | .low => 3

def ofNumber? : UInt8 → Option Priority
  | 1 => some .high
  | 2 => some .normal
  | 3 => some .low
  | _ => none

def label : Priority → String
  | .high => "High"
  | .normal => "Normal"
  | .low => "Low"

def ofTrimmed? (chars : List Char) : Option Priority :=
  match Text.natural? chars with
  | some number => if number < 256 then ofNumber? (UInt8.ofNat number) else none
  | none => all.find? fun priority =>
      chars.map Text.lowerAscii == priority.label.toList.map Text.lowerAscii

def ofText (text : String) : Except SubscriptionFault Priority :=
  match ofTrimmed? (Text.trimmedChars text.toList) with
  | some priority => .ok priority
  | none => .error (.unknownPriority (Text.trimmed text))

instance : LE Priority := ⟨fun left right => left.number ≤ right.number⟩

instance (left right : Priority) : Decidable (left ≤ right) :=
  inferInstanceAs (Decidable (left.number ≤ right.number))

def sorted (priorities : List Priority) : List Priority :=
  priorities.mergeSort fun left right => decide (left ≤ right)

end Priority

end SubscriptionDesk

namespace SubscriptionDesk.Text

def digitValue (c : Char) : Nat := c.toNat - '0'.toNat

def isDigit (c : Char) : Bool := '0' ≤ c && c ≤ '9'

def digitsValue (digits : List Char) : Nat :=
  digits.foldl (fun value digit => 10 * value + digitValue digit) 0

/-- Reads a natural number: one or more digits, after at most one plus sign. -/
def natural? (chars : List Char) : Option Nat :=
  let digits := match chars with
    | '+' :: rest => rest
    | _ => chars
  if !digits.isEmpty && digits.all isDigit then some (digitsValue digits) else none

def hexValue? (c : Char) : Option Nat :=
  if isDigit c then some (c.toNat - '0'.toNat)
  else if 'a' ≤ c && c ≤ 'f' then some (c.toNat - 'a'.toNat + 10)
  else if 'A' ≤ c && c ≤ 'F' then some (c.toNat - 'A'.toNat + 10)
  else none

def hexNumber? (chars : List Char) : Option Nat :=
  chars.foldlM (fun value c => (hexValue? c).map (16 * value + ·)) 0

def hexDigits : Nat → Nat → List Char
  | 0, _ => []
  | width + 1, value => hexDigits width (value / 16) ++ [Nat.digitChar (value % 16)]

def paddedDigits : Nat → Nat → List Char
  | 0, _ => []
  | width + 1, value => paddedDigits width (value / 10) ++ [Nat.digitChar (value % 10)]

def lowerAscii (c : Char) : Char :=
  if 'A' ≤ c && c ≤ 'Z' then Char.ofNat (c.toNat + 32) else c

end SubscriptionDesk.Text

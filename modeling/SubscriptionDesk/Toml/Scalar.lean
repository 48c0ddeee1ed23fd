import SubscriptionDesk.Text.Digits
import SubscriptionDesk.Toml
import SubscriptionDesk.Toml.Line

namespace SubscriptionDesk.Toml

def signed : List Char → Bool × List Char
  | '-' :: rest => (true, rest)
  | '+' :: rest => (false, rest)
  | chars => (false, chars)

/-- What follows a character of a number, without its underscores. Each of them stands between
two digits. -/
def ungroupedFrom? (isDigit : Char → Bool) (afterDigit : Bool) : List Char → Option (List Char)
  | [] => some []
  | '_' :: c :: rest =>
      if afterDigit && isDigit c then (ungroupedFrom? isDigit true rest).map (c :: ·) else none
  | ['_'] => none
  | c :: rest => (ungroupedFrom? isDigit (isDigit c) rest).map (c :: ·)

def ungrouped? (isDigit : Char → Bool) (chars : List Char) : Option (List Char) :=
  ungroupedFrom? isDigit false chars

def isHexDigit (c : Char) : Bool := (Text.hexValue? c).isSome

def digits? (chars : List Char) : Option (List Char) :=
  if !chars.isEmpty && chars.all Text.isDigit then some chars else none

def hasLeadingZero : List Char → Bool
  | '0' :: _ :: _ => true
  | _ => false

/-- A decimal number is made of digits. After an underscore anything else may follow but a point,
an exponent and a space. -/
def isDecimalShaped (chars : List Char) : Bool :=
  match chars.dropWhile Text.isDigit with
  | [] => !chars.isEmpty
  | '_' :: rest => rest.all fun c => c != '.' && c != 'e' && c != 'E' && c != ' '
  | _ => false

def decimalInt? (chars : List Char) : Option (Option Int) := do
  let (negative, rest) := signed chars
  if isDecimalShaped rest && !hasLeadingZero rest then
    let found ← ungrouped? isHexDigit rest
    return (digits? found).map fun digits =>
      let size : Int := Text.digitsValue digits
      if negative then -size else size
  else none

def baseInt? (base : Nat) (chars : List Char) : Option (Option Int) := do
  let isDigit := fun c => (Text.hexValue? c).any (· < base)
  let digits ← ungrouped? isDigit chars
  if digits.isEmpty then return none
  else if digits.all isDigit then
    return some (digits.foldl
      (fun value c => base * value + (Text.hexValue? c).getD 0) 0 : Nat)
  else none

def int? : List Char → Option (Option Int)
  | '0' :: 'x' :: rest => baseInt? 16 rest
  | '0' :: 'o' :: rest => baseInt? 8 rest
  | '0' :: 'b' :: rest => baseInt? 2 rest
  | chars => decimalInt? chars

def cutAt (isMark : Char → Bool) (chars : List Char) : List Char × Option (List Char) :=
  let before := chars.takeWhile fun c => !isMark c
  match chars.dropWhile fun c => !isMark c with
  | [] => (before, none)
  | _ :: after => (before, some after)

def fractionDigits? : Option (List Char) → Option (List Char)
  | none => some []
  | some chars => digits? chars

def exponent? : Option (List Char) → Option Int
  | none => some 0
  | some chars => do
      let (negative, rest) := signed chars
      let digits ← digits? rest
      let size : Int := Text.digitsValue digits
      return if negative then -size else size

def finite? (value : Binary64) : Option Binary64 := if value.isFinite then some value else none

def decimalReal? (negative : Bool) (chars : List Char) : Option (Option Binary64) := do
  let (mantissa, exponent) := cutAt (fun c => c == 'e' || c == 'E') chars
  let (whole, fraction) := cutAt (· == '.') mantissa
  if exponent.isNone && fraction.isNone then none
  else
    let whole ← digits? whole
    if hasLeadingZero whole then none
    else
      let fraction ← fractionDigits? fraction
      let exponent ← exponent? exponent
      return finite? (.ofDecimal negative (Text.digitsValue (whole ++ fraction))
        (exponent - fraction.length))

def real? (chars : List Char) : Option (Option Binary64) :=
  let (negative, rest) := signed chars
  match rest with
  | ['i', 'n', 'f'] => some (some (.infinity negative))
  | ['n', 'a', 'n'] => some (some .nan)
  | _ => (ungrouped? Text.isDigit rest).bind (decimalReal? negative)

def twoDigits? (low high : Nat) (a b : Char) : Option Nat :=
  if Text.isDigit a && Text.isDigit b then
    let value := Text.digitsValue [a, b]
    if low ≤ value && value ≤ high then some value else none
  else none

def isLeapYear (year : Nat) : Bool := year % 4 == 0 && (year % 100 != 0 || year % 400 == 0)

def daysInMonth (year month : Nat) : Nat :=
  if month == 2 then (if isLeapYear year then 29 else 28)
  else if [4, 6, 9, 11].contains month then 30
  else 31

def afterDate? : List Char → Option (List Char)
  | y :: e :: a :: r :: '-' :: m :: n :: '-' :: d :: f :: rest => do
      if [y, e, a, r].all Text.isDigit then
        let month ← twoDigits? 1 12 m n
        let _ ← twoDigits? 1 (daysInMonth (Text.digitsValue [y, e, a, r]) month) d f
        return rest
      else none
  | _ => none

def afterFraction? : List Char → Option (List Char)
  | '.' :: rest =>
      match rest with
      | c :: _ => if Text.isDigit c then some (rest.dropWhile Text.isDigit) else none
      | [] => none
  | rest => some rest

def afterTime? : List Char → Option (List Char)
  | h :: o :: ':' :: m :: i :: rest => do
      let _ ← twoDigits? 0 23 h o
      let _ ← twoDigits? 0 59 m i
      match rest with
      | ':' :: s :: e :: rest => do
          let _ ← twoDigits? 0 60 s e
          afterFraction? rest
      | ':' :: _ => none
      | rest => some rest
  | _ => none

def isOffset : List Char → Bool
  | [] => true
  | [c] => c == 'Z' || c == 'z'
  | [sign, h, o, ':', m, i] =>
      (sign == '+' || sign == '-') && (twoDigits? 0 23 h o).isSome && (twoDigits? 0 59 m i).isSome
  | _ => false

def isMoment (chars : List Char) : Bool :=
  match afterDate? chars with
  | some [] => true
  | some (mark :: time) =>
      (mark == 'T' || mark == 't' || mark == ' ') && (afterTime? time).any isOffset
  | none => (afterTime? chars).any List.isEmpty

def scalar? (chars : List Char) : Option Toml :=
  match chars with
  | ['t', 'r', 'u', 'e'] => some (.bool true)
  | ['f', 'a', 'l', 's', 'e'] => some (.bool false)
  | _ =>
      match int? chars, real? chars with
      | some value, _ => some (.int value)
      | none, some value => some (.real value)
      | none, none => if isMoment chars then some .moment else none

def isEdge (c : Char) : Bool :=
  ['=', ',', '[', ']', '\x7b', '\x7d', '#', '\r', '\n'].contains c

/-- Whether a text without quotes can go on with these characters after a blank. A quote begins a
text of its own there. -/
def goesOn (chars : List Char) : Bool := chars.head?.any fun c => c != '"' && c != '\''

def scalarText : List Char → List Char × List Char
  | [] => ([], [])
  | c :: rest =>
      if isEdge c then ([], c :: rest)
      else
        let (found, after) := scalarText rest
        if isBlank c && !goesOn found then ([], c :: rest) else (c :: found, after)

end SubscriptionDesk.Toml

import SubscriptionDesk.Json

namespace SubscriptionDesk.Json

abbrev Scan (α : Type) := List Char → Option (α × List Char)

def isBlank (c : Char) : Bool := c == ' ' || c == '\n' || c == '\r' || c == '\t'

def skipBlanks (chars : List Char) : List Char := chars.dropWhile isBlank

/-- A piece of a quoted text: a character, or the code unit of an escape. -/
inductive Piece where
  | char (c : Char)
  | unit (code : Nat)
  deriving DecidableEq

def escaped? : Char → Option Char
  | '"' => some '"'
  | '\\' => some '\\'
  | '/' => some '/'
  | 'b' => some '\x08'
  | 'f' => some '\x0c'
  | 'n' => some '\n'
  | 'r' => some '\r'
  | 't' => some '\t'
  | _ => none

def pieces : List Char → Option (List Piece × List Char)
  | '"' :: rest => some ([], rest)
  | '\\' :: 'u' :: a :: b :: c :: d :: rest => do
      let code ← Text.hexNumber? [a, b, c, d]
      let (more, rest) ← pieces rest
      return (.unit code :: more, rest)
  | '\\' :: c :: rest => do
      let c ← escaped? c
      let (more, rest) ← pieces rest
      return (.char c :: more, rest)
  | c :: rest => do
      if c.toNat < 0x20 || c == '\\' then none
      let (more, rest) ← pieces rest
      return (.char c :: more, rest)
  | [] => none

def isLeading (code : Nat) : Bool := 0xD800 ≤ code && code < 0xDC00

def isTrailing (code : Nat) : Bool := 0xDC00 ≤ code && code < 0xE000

def joinPieces? : List Piece → Option (List Char)
  | [] => some []
  | .char c :: rest => (joinPieces? rest).map (c :: ·)
  | .unit high :: .unit low :: rest =>
      if isLeading high && isTrailing low then
        (joinPieces? rest).map
          (Char.ofNat (0x10000 + (high - 0xD800) * 0x400 + (low - 0xDC00)) :: ·)
      else if isLeading high || isTrailing high then none
      else (joinPieces? (.unit low :: rest)).map (Char.ofNat high :: ·)
  | .unit code :: rest =>
      if isLeading code || isTrailing code then none
      else (joinPieces? rest).map (Char.ofNat code :: ·)

def textTail : Scan (Option String) := fun chars => do
  let (found, rest) ← pieces chars
  return ((joinPieces? found).map String.ofList, rest)

def digits : Scan (List Char) := fun chars =>
  let found := chars.takeWhile Text.isDigit
  if found.isEmpty then none else some (found, chars.dropWhile Text.isDigit)

def wholePart : Scan (List Char)
  | '0' :: rest =>
      match rest with
      | c :: _ => if Text.isDigit c then none else some (['0'], rest)
      | [] => some (['0'], rest)
  | chars => digits chars

def fractionPart : Scan (Option (List Char))
  | '.' :: rest => do
      let (found, rest) ← digits rest
      return (some found, rest)
  | chars => some (none, chars)

def exponentSign : List Char → Bool × List Char
  | '-' :: rest => (true, rest)
  | '+' :: rest => (false, rest)
  | chars => (false, chars)

def exponentPart : Scan (Option Int)
  | c :: rest =>
      if c == 'e' || c == 'E' then do
        let (negative, rest) := exponentSign rest
        let (found, rest) ← digits rest
        let size : Int := Text.digitsValue found
        return (some (if negative then -size else size), rest)
      else some (none, c :: rest)
  | [] => some (none, [])

def ofReal (value : Binary64) : Json := if value.isFinite then .real value else .unreadable

def ofWhole (negative : Bool) (digits : Nat) : Json :=
  if negative then
    -- minus zero is no integer
    if digits = 0 || Nat.pow 2 63 < digits then ofReal (.ofDecimal true digits 0)
    else .int (-(digits : Int))
  else if digits < UInt64.size then .int digits
  else ofReal (.ofDecimal false digits 0)

def unsignedNumber (negative : Bool) : Scan Json := fun chars => do
  let (whole, chars) ← wholePart chars
  let (fraction, chars) ← fractionPart chars
  let (exponent, chars) ← exponentPart chars
  let value :=
    match fraction, exponent with
    | none, none => ofWhole negative (Text.digitsValue whole)
    | _, _ =>
        let fraction := fraction.getD []
        ofReal (.ofDecimal negative (Text.digitsValue (whole ++ fraction))
          (exponent.getD 0 - fraction.length))
  return (value, chars)

def number : Scan Json
  | '-' :: rest => unsignedNumber true rest
  | chars => unsignedNumber false chars

def afterItem (close : Char) : List Char → Option (Bool × List Char)
  | c :: rest =>
      if c == ',' then some (true, rest) else if c == close then some (false, rest) else none
  | [] => none

/-- An object, which has no meaning when one of its keys has none. -/
def ofMembers (members : List (Option String × Json)) : Json :=
  match members.mapM fun member => member.1.map fun key => (key, member.2) with
  | some members => .object members
  | none => .unreadable

mutual

def value : Nat → Scan Json
  | 0, _ => none
  | fuel + 1, chars =>
      match skipBlanks chars with
      | 'n' :: 'u' :: 'l' :: 'l' :: rest => some (.null, rest)
      | 't' :: 'r' :: 'u' :: 'e' :: rest => some (.bool true, rest)
      | 'f' :: 'a' :: 'l' :: 's' :: 'e' :: rest => some (.bool false, rest)
      | '"' :: rest => do
          let (found, rest) ← textTail rest
          return ((found.map Json.text).getD .unreadable, rest)
      | '[' :: rest =>
          match skipBlanks rest with
          | ']' :: rest => some (.array [], rest)
          | rest => do
              let (found, rest) ← items fuel rest
              return (.array found, rest)
      | '\x7b' :: rest =>
          match skipBlanks rest with
          | '\x7d' :: rest => some (.object [], rest)
          | rest => do
              let (found, rest) ← members fuel rest
              return (ofMembers found, rest)
      | rest => number rest

def items : Nat → Scan (List Json)
  | 0, _ => none
  | fuel + 1, chars => do
      let (first, rest) ← value fuel chars
      let (more, rest) ← afterItem ']' (skipBlanks rest)
      if more then
        let (others, rest) ← items fuel rest
        return (first :: others, rest)
      else return ([first], rest)

def members : Nat → Scan (List (Option String × Json))
  | 0, _ => none
  | fuel + 1, chars =>
      match skipBlanks chars with
      | '"' :: rest => do
          let (key, rest) ← textTail rest
          match skipBlanks rest with
          | ':' :: rest =>
              let (first, rest) ← value fuel rest
              let (more, rest) ← afterItem '\x7d' (skipBlanks rest)
              if more then
                let (others, rest) ← members fuel rest
                return ((key, first) :: others, rest)
              else return ([(key, first)], rest)
          | _ => none
      | _ => none

end

def parse? (text : String) : Option Json := do
  let chars := text.toList
  let (found, rest) ← value (2 * chars.length + 2) chars
  if (skipBlanks rest).isEmpty then some found else none

end SubscriptionDesk.Json

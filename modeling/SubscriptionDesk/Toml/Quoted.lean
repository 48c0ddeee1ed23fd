import SubscriptionDesk.Text.Digits
import SubscriptionDesk.Toml.Line

namespace SubscriptionDesk.Toml

def charOfHex? (digits : List Char) : Option Char := do
  let code ← Text.hexNumber? digits
  if code.isValidChar then some (Char.ofNat code) else none

def escape? : List Char → Option (Char × List Char)
  | 'b' :: rest => some ('\x08', rest)
  | 't' :: rest => some ('\t', rest)
  | 'n' :: rest => some ('\n', rest)
  | 'f' :: rest => some ('\x0c', rest)
  | 'r' :: rest => some ('\r', rest)
  | 'e' :: rest => some ('\x1b', rest)
  | '"' :: rest => some ('"', rest)
  | '\\' :: rest => some ('\\', rest)
  | 'x' :: a :: b :: rest => (charOfHex? [a, b]).map (·, rest)
  | 'u' :: a :: b :: c :: d :: rest => (charOfHex? [a, b, c, d]).map (·, rest)
  | 'U' :: a :: b :: c :: d :: e :: f :: g :: h :: rest =>
      (charOfHex? [a, b, c, d, e, f, g, h]).map (·, rest)
  | _ => none

def afterContinuation? (chars : List Char) : Option (List Char) :=
  (afterLineEnd? (skipBlanks chars)).map skipLineEnds

def basicInside? : List Char → Option (List Char × List Char)
  | [] => none
  | '"' :: rest => some ([], rest)
  | '\\' :: c :: rest => (basicInside? rest).map fun (inside, after) => ('\\' :: c :: inside, after)
  | c :: rest => (basicInside? rest).map fun (inside, after) => (c :: inside, after)

def literalInside? (chars : List Char) : Option (List Char × List Char) :=
  match chars.dropWhile (· != '\'') with
  | [] => none
  | _ :: after => some (chars.takeWhile (· != '\''), after)

/-- What of a text in triple quotes is left where they close, and what follows: up to two more
quotes belong to the text. -/
def tripleEnd? (quote : Char) : List Char → Option (List Char × List Char)
  | a :: b :: c :: rest =>
      if a == quote && b == quote && c == quote then
        match rest with
        | d :: e :: rest =>
            if d == quote && e == quote then some ([quote, quote], rest)
            else if d == quote then some ([quote], e :: rest)
            else some ([], d :: e :: rest)
        | [d] => if d == quote then some ([quote], []) else some ([], [d])
        | [] => some ([], [])
      else none
  | _ => none

def tripleInside? (quote : Char) (escapes : Bool) : List Char → Option (List Char × List Char)
  | c :: d :: rest =>
      match tripleEnd? quote (c :: d :: rest) with
      | some found => some found
      | none =>
          if escapes && c == '\\' then
            (tripleInside? quote escapes rest).map fun (inside, after) => (c :: d :: inside, after)
          else
            (tripleInside? quote escapes (d :: rest)).map fun (inside, after) =>
              (c :: inside, after)
  | _ => none

def isPlain (severalLines : Bool) : List Char → Bool
  | [] => true
  | '\n' :: rest => severalLines && isPlain severalLines rest
  | '\r' :: '\n' :: rest => severalLines && isPlain severalLines rest
  | c :: rest => isPrintable c && isPlain severalLines rest

/-- Reads the escapes in the inside of a text that is no longer than the fuel. -/
def unescapeTail (severalLines : Bool) : Nat → List Char → Option (List Char)
  | _, [] => some []
  | 0, _ => none
  | fuel + 1, '\\' :: rest =>
      match if severalLines then afterContinuation? rest else none with
      | some rest => unescapeTail severalLines fuel rest
      | none => do
          let (c, rest) ← escape? rest
          return c :: (← unescapeTail severalLines fuel rest)
  | fuel + 1, '\n' :: rest =>
      if severalLines then (unescapeTail severalLines fuel rest).map ('\n' :: ·) else none
  | fuel + 1, '\r' :: '\n' :: rest =>
      if severalLines then (unescapeTail severalLines fuel rest).map ('\r' :: '\n' :: ·) else none
  | fuel + 1, c :: rest =>
      if isPrintable c then (unescapeTail severalLines fuel rest).map (c :: ·) else none

def unescape? (severalLines : Bool) (inside : List Char) : Option String :=
  (unescapeTail severalLines inside.length inside).map String.ofList

def plain? (severalLines : Bool) (inside : List Char) : Option String :=
  if isPlain severalLines inside then some (String.ofList inside) else none

def tripleText? (quote : Char) (escapes : Bool) (chars : List Char) :
    Option (String × List Char) := do
  -- a line end right behind the opening quotes does not count
  let (inside, rest) ← tripleInside? quote escapes ((afterLineEnd? chars).getD chars)
  return (← if escapes then unescape? true inside else plain? true inside, rest)

def lineText? : List Char → Option (String × List Char)
  | '"' :: rest => do
      let (inside, rest) ← basicInside? rest
      return (← unescape? false inside, rest)
  | '\'' :: rest => do
      let (inside, rest) ← literalInside? rest
      return (← plain? false inside, rest)
  | _ => none

def quotedText? : List Char → Option (String × List Char)
  | '"' :: '"' :: '"' :: rest => tripleText? '"' true rest
  | '\'' :: '\'' :: '\'' :: rest => tripleText? '\'' false rest
  | chars => lineText? chars

end SubscriptionDesk.Toml

import SubscriptionDesk.Toml.Quoted
import SubscriptionDesk.Toml.Scalar

namespace SubscriptionDesk.Toml

abbrev Scan (α : Type) := List Char → Option (α × List Char)

def isBareChar (c : Char) : Bool := c.isAlphanum || c == '_' || c == '-'

def simpleKey : Scan String := fun chars =>
  match chars with
  | '"' :: _ => lineText? chars
  | '\'' :: _ => lineText? chars
  | _ =>
      let found := chars.takeWhile isBareChar
      if found.isEmpty then none else some (String.ofList found, chars.dropWhile isBareChar)

def keys : Nat → Scan Path
  | 0, _ => none
  | fuel + 1, chars => do
      let (key, rest) ← simpleKey (skipBlanks chars)
      match skipBlanks rest with
      | '.' :: rest =>
          let (path, rest) ← keys fuel rest
          return ({ path with parents := key :: path.parents }, rest)
      | rest => return (⟨[], key⟩, rest)

def mostKeys : Nat := 80

def path : Scan Path := keys mostKeys

def deepestNesting : Nat := 80

mutual

def value (depth : Nat) : Nat → Scan Toml
  | 0, _ => none
  | fuel + 1, chars =>
      match chars with
      | '[' :: rest => do
          if deepestNesting ≤ depth then none
          else
            let (found, rest) ← items (depth + 1) fuel rest
            return (.array found, rest)
      | '\x7b' :: rest => do
          if deepestNesting ≤ depth then none
          else
            let (found, rest) ← pairs (depth + 1) fuel [] rest
            return (.table .inline found, rest)
      | '"' :: _ => (quotedText? chars).map fun (found, rest) => (.text found, rest)
      | '\'' :: _ => (quotedText? chars).map fun (found, rest) => (.text found, rest)
      | _ => do
          let (found, rest) := scalarText chars
          return (← scalar? found, rest)

def items (depth : Nat) : Nat → Scan (List Toml)
  | 0, _ => none
  | fuel + 1, chars => do
      match ← skipGaps chars with
      | ']' :: rest => return ([], rest)
      | chars =>
          let (first, rest) ← value depth fuel chars
          match ← skipGaps rest with
          | ']' :: rest => return ([first], rest)
          | ',' :: rest =>
              let (others, rest) ← items depth fuel rest
              return (first :: others, rest)
          | _ => none

/-- The rest of an inline table after its brace or a comma, added to what it holds. Its lines may
end anywhere but within a key. -/
def pairs (depth : Nat) : Nat → Entries → Scan Entries
  | 0, _, _ => none
  | fuel + 1, entries, chars => do
      match ← skipGaps chars with
      | '\x7d' :: rest => return (entries, rest)
      | chars =>
          let (key, rest) ← path chars
          match ← skipGaps rest with
          | '=' :: rest =>
              let (found, rest) ← value depth fuel (← skipGaps rest)
              let entries ← assign key found entries
              match ← skipGaps rest with
              | '\x7d' :: rest => return (entries, rest)
              | ',' :: rest => pairs depth fuel entries rest
              | _ => none
          | _ => none

end

def statement (fuel : Nat) : Scan Statement := fun chars =>
  match chars with
  | '[' :: '[' :: rest => do
      match ← path rest with
      | (found, ']' :: ']' :: rest) => return (.itemHeader found, rest)
      | _ => none
  | '[' :: rest => do
      match ← path rest with
      | (found, ']' :: rest) => return (.tableHeader found, rest)
      | _ => none
  | _ => do
      match ← path chars with
      | (key, '=' :: rest) =>
          let (found, rest) ← value 0 fuel (skipBlanks rest)
          return (.assignment key found, rest)
      | _ => none

/-- The lines of a text that is no longer than half of the fuel. -/
def statements : Nat → List Char → Option (List Statement)
  | 0, _ => none
  | fuel + 1, chars => do
      match ← skipGaps chars with
      | [] => return []
      | chars =>
          let (first, rest) ← statement fuel chars
          let others ← statements fuel (← afterLine? rest)
          return first :: others

def parse? (text : String) : Option Entries := do
  let chars := match text.toList with
    | '\ufeff' :: rest => rest
    | chars => chars
  ofStatements? (← statements (2 * chars.length + 2) chars)

end SubscriptionDesk.Toml

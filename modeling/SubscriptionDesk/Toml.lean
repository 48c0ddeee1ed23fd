import SubscriptionDesk.Binary64

namespace SubscriptionDesk

inductive TableOrigin where
  | implied
  | dotted
  | header
  | inline
  deriving DecidableEq

inductive Toml where
  | text (value : String)
  | int (value : Option Int)
  | real (value : Option Binary64)
  | bool (value : Bool)
  | moment
  | array (items : List Toml)
  | table (origin : TableOrigin) (entries : List (String × Toml))
  | tables (items : List (List (String × Toml)))

namespace Toml

abbrev Entries := List (String × Toml)

structure Path where
  parents : List String
  name : String
  deriving DecidableEq

def lookup (key : String) (entries : Entries) : Option Toml :=
  (entries.find? fun entry => entry.1 == key).map Prod.snd

def replace (key : String) (value : Toml) (entries : Entries) : Entries :=
  entries.map fun entry => if entry.1 == key then (key, value) else entry

inductive Approach where
  | header
  | dots
  deriving DecidableEq

/-- Whether a table may be passed through. No inline table may, and dotted keys only pass through
tables that have no header, to end in one that other dotted keys made. -/
def Approach.admits (approach : Approach) (isLast : Bool) (origin : TableOrigin) : Bool :=
  match approach, isLast with
  | .header, _ => decide (origin ≠ .inline)
  | .dots, true => decide (origin = .dotted)
  | .dots, false => decide (origin = .dotted) || decide (origin = .implied)

def Approach.admitsItem (approach : Approach) (isLast : Bool) : Bool :=
  match approach with
  | .header => true
  | .dots => !isLast

def Approach.leaves : Approach → TableOrigin
  | .header => .implied
  | .dots => .dotted

def within (approach : Approach) (change : Entries → Option Entries) :
    List String → Entries → Option Entries
  | [], entries => change entries
  | key :: rest, entries =>
      match lookup key entries with
      | none => do
          let inner ← within approach change rest []
          return entries ++ [(key, .table approach.leaves inner)]
      | some (.table origin inner) => do
          if approach.admits rest.isEmpty origin then
            let inner ← within approach change rest inner
            return replace key (.table origin inner) entries
          else none
      | some (.tables items) => do
          if approach.admitsItem rest.isEmpty then
            let inner ← within approach change rest (items.getLast?.getD [])
            return replace key (.tables (items.dropLast ++ [inner])) entries
          else none
      | some _ => none

def addNew (key : String) (value : Toml) (entries : Entries) : Option Entries :=
  match lookup key entries with
  | none => some (entries ++ [(key, value)])
  | some _ => none

def assign (path : Path) (value : Toml) : Entries → Option Entries :=
  within .dots (addNew path.name value) path.parents

def openTable (key : String) (entries : Entries) : Option Entries :=
  match lookup key entries with
  | none => some (entries ++ [(key, .table .header [])])
  -- so far only passed through, on the way to the table of another header
  | some (.table .implied inner) => some (replace key (.table .header inner) entries)
  | some _ => none

def openItem (key : String) (entries : Entries) : Option Entries :=
  match lookup key entries with
  | none => some (entries ++ [(key, .tables [[]])])
  | some (.tables items) => some (replace key (.tables (items ++ [[]])) entries)
  | some _ => none

inductive Statement where
  | assignment (path : Path) (value : Toml)
  | tableHeader (path : Path)
  | itemHeader (path : Path)

structure Draft where
  root : Entries
  current : List String

def Draft.empty : Draft := ⟨[], []⟩

def Draft.add (draft : Draft) : Statement → Option Draft
  | .assignment path value => do
      return { draft with root := ← within .header (assign path value) draft.current draft.root }
  | .tableHeader path => do
      return ⟨← within .header (openTable path.name) path.parents draft.root,
        path.parents ++ [path.name]⟩
  | .itemHeader path => do
      return ⟨← within .header (openItem path.name) path.parents draft.root,
        path.parents ++ [path.name]⟩

/-- The root table that the lines of a text describe, if no two of them clash. -/
def ofStatements? (statements : List Statement) : Option Entries :=
  (statements.foldlM Draft.add Draft.empty).map Draft.root

end Toml

end SubscriptionDesk

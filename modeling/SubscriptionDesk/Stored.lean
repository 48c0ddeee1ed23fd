import SubscriptionDesk.Json
import SubscriptionDesk.Name

namespace SubscriptionDesk

class Stored (α : Type) where
  toJson : α → Json
  /-- The value that a stored form stands for, with room for so many arrays and objects to nest. -/
  ofJson? : Nat → Json → Option α

namespace Json

mutual

def isPlain (room : Nat) : Json → Bool
  | .array items => decide (0 < room) && allPlain (room - 1) items
  | .object members => decide (0 < room) && allMembersPlain (room - 1) members
  | .unreadable => false
  | _ => true

def allPlain (room : Nat) : List Json → Bool
  | [] => true
  | item :: rest => isPlain room item && allPlain room rest

def allMembersPlain (room : Nat) : List (String × Json) → Bool
  | [] => true
  | (_, value) :: rest => isPlain room value && allMembersPlain room rest

end

end Json

namespace Stored

def text? : Json → Option String
  | .text value => some value
  | _ => none

def intWithin? (low high : Int) : Json → Option Int
  | .int value => if low ≤ value ∧ value ≤ high then some value else none
  | _ => none

def natWithin? (high : Nat) (json : Json) : Option Nat := (intWithin? 0 high json).map Int.toNat

instance : Stored String := ⟨.text, fun _ => text?⟩

instance : Stored Bool where
  toJson := .bool
  ofJson? _
    | .bool value => some value
    | _ => none

instance : Stored UInt8 where
  toJson value := .int value.toNat
  ofJson? _ json := (natWithin? (UInt8.size - 1) json).map UInt8.ofNat

instance : Stored UInt16 where
  toJson value := .int value.toNat
  ofJson? _ json := (natWithin? (UInt16.size - 1) json).map UInt16.ofNat

instance : Stored UInt32 where
  toJson value := .int value.toNat
  ofJson? _ json := (natWithin? (UInt32.size - 1) json).map UInt32.ofNat

instance : Stored UInt64 where
  toJson value := .int value.toNat
  ofJson? _ json := (natWithin? (UInt64.size - 1) json).map UInt64.ofNat

instance : Stored Int64 where
  toJson value := .int value.toInt
  ofJson? _ json := (intWithin? Int64.minValue.toInt Int64.maxValue.toInt json).map Int64.ofInt

/-- A number that is not finite is stored as null, which is no number. A whole number is taken for
the nearest binary64 number. -/
instance : Stored Binary64 where
  toJson value := if value.isFinite then .real value else .null
  ofJson? _
    | .real value => some value
    | .int value => some (.ofInt value)
    | _ => none

instance {role : Role} : Stored (Name role) where
  toJson name := .text name.text
  ofJson? _ json := (text? json).map Name.mk

variable {α : Type}

instance [Stored α] : Stored (List α) where
  toJson items := .array (items.map toJson)
  ofJson? room
    | .array items => items.mapM (ofJson? (room - 1))
    | _ => none

instance [LT α] [DecidableLT α] [StrictTotalOrder α] [Stored α] : Stored (AscendingSet α) where
  toJson set := .array (set.members.map toJson)
  ofJson? room json := (ofJson? room json : Option (List α)).map AscendingSet.ofList

instance [Stored α] : Stored (Option α) where
  toJson
    | some value => toJson value
    | none => .null
  ofJson? room
    | .null => some none
    | json => (ofJson? room json).map some

def ofLabel? (all : List α) (label : α → String) : Json → Option α
  | .text text => all.find? fun value => label value == text
  | .object [(key, .null)] => all.find? fun value => label value == key
  | _ => none

def ofLabelBeside? (all : List α) (label : α → String) : Json → Option α
  | .object [(key, .object [])] => all.find? fun value => label value == key
  | json => ofLabel? all label json

/-- The values of the fields of a record by their keys: an object holds each at most once, in any
order and among others, and an array holds all of them in their order. -/
def fields? (keys : List String) : Json → Option (List (Option Json))
  | .object members =>
      keys.mapM fun key =>
        match members.filter fun member => member.1 == key with
        | [] => some none
        | [member] => some (some member.2)
        | _ => none
  | .array items => if items.length = keys.length then some (items.map some) else none
  | _ => none

def required? [Stored α] (room : Nat) (field : Option Json) : Option α :=
  field.bind (ofJson? (room - 1))

def optional? [Stored α] (room : Nat) : Option Json → Option (Option α)
  | none => some none
  | some json => ofJson? (room - 1) json

def deepestNesting : Nat := 127

/-- The tag of a stored alternative, and what stands beside it: the other members of an object, or
the rest of an array that the tag heads. What stands beside a tag must be plain. -/
def tagged? (key : String) (room : Nat) : Json → Option (String × Json)
  | .object members =>
      let rest := members.filter fun member => member.1 != key
      match members.filter fun member => member.1 == key with
      | [(_, .text tag)] =>
          if Json.allMembersPlain (room - 1) rest then some (tag, .object rest)
          else none
      | _ => none
  | .array (.text tag :: rest) =>
      if Json.allPlain (room - 1) rest then some (tag, .array rest) else none
  | _ => none

def bare? (value : α) : Json → Option α
  | .object _ => some value
  | .array [] => some value
  | _ => none

def withTag (key tag : String) (members : List (String × Json)) : Json :=
  .object ((key, .text tag) :: members)

end Stored

end SubscriptionDesk

import SubscriptionDesk.Binary64
import SubscriptionDesk.Text.Digits

namespace SubscriptionDesk

/-- A JSON value. Members of an object keep their order and may repeat. -/
inductive Json where
  | null
  | bool (value : Bool)
  | int (value : Int)
  | real (value : Binary64)
  | text (value : String)
  | array (items : List Json)
  | object (members : List (String × Json))
  | unreadable

namespace Json

def quotedChar (c : Char) : List Char :=
  match c with
  | '"' => ['\\', '"']
  | '\\' => ['\\', '\\']
  | '\n' => ['\\', 'n']
  | '\r' => ['\\', 'r']
  | '\t' => ['\\', 't']
  | '\x08' => ['\\', 'b']
  | '\x0c' => ['\\', 'f']
  | c => if c.toNat < 0x20 then ['\\', 'u'] ++ Text.hexDigits 4 c.toNat else [c]

def quotedChars (text : String) : List Char := '"' :: (text.toList.flatMap quotedChar ++ ['"'])

def quoted (text : String) : String := String.ofList (quotedChars text)

def quotedList (texts : List String) : String :=
  "[" ++ ",".intercalate (texts.map quoted) ++ "]"

mutual

def render (writeReal : Binary64 → String) : Json → String
  | .null => "null"
  | .bool value => if value then "true" else "false"
  | .int value => toString value
  | .real value => writeReal value
  | .text value => quoted value
  | .array items => "[" ++ ",".intercalate (renderItems writeReal items) ++ "]"
  | .object members => "\x7b" ++ ",".intercalate (renderMembers writeReal members) ++ "\x7d"
  | .unreadable => "null"

def renderItems (writeReal : Binary64 → String) : List Json → List String
  | [] => []
  | item :: rest => render writeReal item :: renderItems writeReal rest

def renderMembers (writeReal : Binary64 → String) : List (String × Json) → List String
  | [] => []
  | (key, value) :: rest =>
      (quoted key ++ ":" ++ render writeReal value) :: renderMembers writeReal rest

end

def member? (key : String) : Json → Option Json
  | .object members => (members.reverse.find? fun member => member.1 == key).map Prod.snd
  | _ => none

end Json

end SubscriptionDesk

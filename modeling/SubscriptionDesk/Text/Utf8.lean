namespace SubscriptionDesk.Text

def octets (text : String) : List UInt8 := text.toUTF8.toList

def following? (first : UInt8) : Option (Nat × UInt8 × UInt8) :=
  if first < 0xC2 then none
  else if first ≤ 0xDF then some (1, 0x80, 0xBF)
  else if first = 0xE0 then some (2, 0xA0, 0xBF)
  else if first = 0xED then some (2, 0x80, 0x9F)
  else if first ≤ 0xEF then some (2, 0x80, 0xBF)
  else if first = 0xF0 then some (3, 0x90, 0xBF)
  else if first ≤ 0xF3 then some (3, 0x80, 0xBF)
  else if first = 0xF4 then some (3, 0x80, 0x8F)
  else none

/-- Where a reader of UTF-8 stands: between characters, or within one with its value so far, the
number of octets still to come, and the bounds of the next. -/
inductive Utf8State where
  | between
  | within (value : Nat) (missing : Nat) (low high : UInt8)

def replacement : Char := Char.ofNat 0xFFFD

def startChar (octet : UInt8) : Option Char × Utf8State :=
  if octet < 0x80 then (some (Char.ofNat octet.toNat), .between)
  else
    match following? octet with
    | some (missing, low, high) =>
        let kept := octet.toNat % Nat.pow 2 (6 - missing)
        (none, .within kept missing low high)
    | none => (some replacement, .between)

/-- The characters of UTF-8 text, a replacement character for each part that is not well formed. -/
def lossyChars : Utf8State → List UInt8 → List Char
  | .between, [] => []
  | .within _ _ _ _, [] => [replacement]
  | .between, octet :: rest =>
      let (found, state) := startChar octet
      found.toList ++ lossyChars state rest
  | .within value missing low high, octet :: rest =>
      if low ≤ octet && octet ≤ high then
        let value := value * 64 + octet.toNat % 64
        if missing ≤ 1 then Char.ofNat value :: lossyChars .between rest
        else lossyChars (.within value (missing - 1) 0x80 0xBF) rest
      else
        let (found, state) := startChar octet
        replacement :: (found.toList ++ lossyChars state rest)

def lossy (octets : List UInt8) : String := String.ofList (lossyChars .between octets)

end SubscriptionDesk.Text

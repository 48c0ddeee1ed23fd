namespace SubscriptionDesk.Toml

def isPrintable (c : Char) : Bool := c == '\t' || (0x20 ≤ c.toNat && c.toNat != 0x7F)

def isBlank (c : Char) : Bool := c == ' ' || c == '\t'

def skipBlanks (chars : List Char) : List Char := chars.dropWhile isBlank

def afterLineEnd? : List Char → Option (List Char)
  | '\n' :: rest => some rest
  | '\r' :: '\n' :: rest => some rest
  | _ => none

def skipLineEnds : List Char → List Char
  | ' ' :: rest => skipLineEnds rest
  | '\t' :: rest => skipLineEnds rest
  | '\n' :: rest => skipLineEnds rest
  | '\r' :: '\n' :: rest => skipLineEnds rest
  | chars => chars

def skipComment : List Char → Option (List Char)
  | '#' :: rest =>
      let atEnd := fun c => c == '\n' || c == '\r'
      if (rest.takeWhile fun c => !atEnd c).all isPrintable then
        some (rest.dropWhile fun c => !atEnd c)
      else none
  | chars => some chars

def afterLine? (chars : List Char) : Option (List Char) := do
  match ← skipComment (skipBlanks chars) with
  | [] => some []
  | rest => afterLineEnd? rest

/-- What follows blanks, line ends and comments, perhaps from within a comment. -/
def afterGaps? (inComment : Bool) : List Char → Option (List Char)
  | [] => some []
  | '\n' :: rest => afterGaps? false rest
  | '\r' :: '\n' :: rest => afterGaps? false rest
  | c :: rest =>
      if inComment then if isPrintable c then afterGaps? true rest else none
      else if c == '#' then afterGaps? true rest
      else if isBlank c then afterGaps? false rest
      else some (c :: rest)

def skipGaps (chars : List Char) : Option (List Char) := afterGaps? false chars

end SubscriptionDesk.Toml

import Mathlib.Data.List.Forall2
import SubscriptionDesk.Json.Reader
import SubscriptionDesk.Proofs.DigitRows

/-!
# What is written as JSON is read back

Each value is read off the front of a text, and what is left is handed on. A value that was written
is found again in front of anything that does not go on with a number, as only a number has no end
of its own.
-/

namespace SubscriptionDesk

theorem mapM_eq_some_map {α β : Type} {items : List α} {f : α → Option β} {g : α → β}
    (hall : ∀ item ∈ items, f item = some (g item)) : items.mapM f = some (items.map g) := by
  induction items with
  | nil => rfl
  | cons item items ih =>
      rw [List.mapM_cons, hall item List.mem_cons_self,
        ih fun item hitem => hall item (List.mem_cons_of_mem _ hitem)]
      rfl

/-! ### Digits -/

namespace Text

theorem hexNumber_hexDigits : ∀ code < 0x20, hexNumber? (hexDigits 4 code) = some code := by
  decide

end Text

namespace Json

open Text

/-! ### Quoted texts -/

/-- Whether a piece stands for a character. Control characters may come as the units of escapes. -/
def Piece.StandsFor : Piece → Char → Prop
  | .char found, c => found = c
  | .unit code, c => code = c.toNat ∧ code < 0x20

variable {rest : List Char}

theorem pieces_escape {c found : Char} (hfound : escaped? c = some found) :
    pieces ('\\' :: c :: rest) =
      (pieces rest).map fun more => (.char found :: more.1, more.2) := by
  have hnotUnit : c ≠ 'u' := by
    rintro rfl
    contradiction
  rw [pieces, hfound]
  · cases pieces rest <;> rfl
  · exact fun _ _ _ _ _ hunit => absurd hunit hnotUnit

theorem pieces_unit {a b c d : Char} {code : Nat} (hcode : hexNumber? [a, b, c, d] = some code) :
    pieces ('\\' :: 'u' :: a :: b :: c :: d :: rest) =
      (pieces rest).map fun more => (.unit code :: more.1, more.2) := by
  rw [pieces, hcode]
  cases pieces rest <;> rfl

theorem pieces_plain {c : Char} (hquote : c ≠ '"') (hback : c ≠ '\\') (hplain : ¬c.toNat < 0x20) :
    pieces (c :: rest) = (pieces rest).map fun more => (.char c :: more.1, more.2) := by
  rw [pieces, if_neg (by simp [hplain, hback])]
  · cases pieces rest <;> rfl
  · exact hquote
  · exact fun _ _ _ _ _ heq => absurd heq hback
  · exact fun _ _ heq => absurd heq hback

theorem pieces_quotedChar (c : Char) (rest : List Char) :
    ∃ piece : Piece, piece.StandsFor c ∧
      pieces (quotedChar c ++ rest) =
        (pieces rest).map fun more => (piece :: more.1, more.2) := by
  unfold quotedChar
  split
  case h_8 hquote hback _ _ _ _ _ =>
    split
    · rename_i hcontrol
      exact ⟨.unit c.toNat, ⟨rfl, hcontrol⟩, pieces_unit (hexNumber_hexDigits c.toNat hcontrol)⟩
    · rename_i hplain
      exact ⟨.char c, rfl, pieces_plain hquote hback hplain⟩
  all_goals exact ⟨.char _, rfl, pieces_escape rfl⟩

theorem pieces_quoted (chars rest : List Char) :
    ∃ found, List.Forall₂ Piece.StandsFor found chars ∧
      pieces (chars.flatMap quotedChar ++ '"' :: rest) = some (found, rest) := by
  induction chars with
  | nil => exact ⟨[], .nil, by simp [pieces]⟩
  | cons c chars ih =>
      obtain ⟨found, hfound, hread⟩ := ih
      obtain ⟨piece, hpiece, hfirst⟩ :=
        pieces_quotedChar c (chars.flatMap quotedChar ++ '"' :: rest)
      refine ⟨piece :: found, .cons hpiece hfound, ?_⟩
      rw [List.flatMap_cons, List.append_assoc, hfirst, hread]
      rfl

theorem joinPieces_unit {code : Nat} {found : List Piece} (hcode : code < 0x20) :
    joinPieces? (.unit code :: found) = (joinPieces? found).map (Char.ofNat code :: ·) := by
  have hleading : isLeading code = false := by simp [isLeading]; omega
  have htrailing : isTrailing code = false := by simp [isTrailing]; omega
  rcases found with _ | ⟨next | next, found⟩ <;> simp [joinPieces?, hleading, htrailing]

theorem joinPieces_of_forall {found : List Piece} {chars : List Char}
    (hfound : List.Forall₂ Piece.StandsFor found chars) : joinPieces? found = some chars := by
  induction hfound with
  | nil => simp [joinPieces?]
  | @cons piece c found chars hpiece _ ih =>
      cases piece with
      | char found =>
          cases hpiece
          rw [joinPieces?, ih]
          rfl
      | unit code =>
          obtain ⟨rfl, hcontrol⟩ := hpiece
          rw [joinPieces_unit hcontrol, ih, Option.map_some, Char.ofNat_toNat]

theorem textTail_quoted (text : String) (rest : List Char) :
    textTail (text.toList.flatMap quotedChar ++ '"' :: rest) = some (some text, rest) := by
  obtain ⟨found, hfound, hread⟩ := pieces_quoted text.toList rest
  rw [textTail, hread]
  simp [joinPieces_of_forall hfound]

/-! ### Numbers -/

/-- Whether a text does not go on with a number that stands in front of it. -/
def Stops : List Char → Prop
  | [] => True
  | c :: _ => isDigit c = false ∧ c ≠ '.' ∧ c ≠ 'e' ∧ c ≠ 'E'

theorem stops_of_delimiter {c : Char} (hc : c = ',' ∨ c = ']' ∨ c = '\x7d') :
    Stops (c :: rest) := by
  rcases hc with rfl | rfl | rfl <;> exact ⟨by decide, by decide, by decide, by decide⟩

theorem digits_append {found : List Char} (hfound : ∀ c ∈ found, isDigit c = true)
    (hnonempty : found ≠ []) (hstops : Stops rest) :
    digits (found ++ rest) = some (found, rest) := by
  have htake : rest.takeWhile isDigit = [] := by
    cases rest with
    | nil => rfl
    | cons c rest => rw [List.takeWhile_cons, hstops.1]; rfl
  have hdrop : rest.dropWhile isDigit = rest := by
    cases rest with
    | nil => rfl
    | cons c rest => rw [List.dropWhile_cons, hstops.1]; rfl
  rw [digits, List.takeWhile_append_of_pos hfound, List.dropWhile_append_of_pos hfound, htake,
    hdrop, List.append_nil]
  simp [hnonempty]

theorem wholePart_toDigits (n : Nat) (hstops : Stops rest) :
    wholePart (Nat.toDigits 10 n ++ rest) = some (Nat.toDigits 10 n, rest) := by
  rcases Nat.eq_zero_or_pos n with rfl | hpos
  · cases rest with
    | nil => rfl
    | cons c rest =>
        change (if isDigit c then none else some (['0'], c :: rest)) = _
        rw [hstops.1]
        rfl
  · obtain ⟨first, others, hdigits, hfirst⟩ := toDigits_eq_cons_of_pos hpos
    have hread : digits (Nat.toDigits 10 n ++ rest) = some (Nat.toDigits 10 n, rest) :=
      digits_append (fun _ hc => isDigit_of_mem_toDigits hc) Nat.toDigits_ne_nil hstops
    rw [hdigits] at hread ⊢
    rw [List.cons_append] at hread ⊢
    rw [wholePart, hread]
    exact fun _ heq => hfirst (List.head_eq_of_cons_eq heq)

theorem fractionPart_of_stops (hstops : Stops rest) : fractionPart rest = some (none, rest) := by
  cases rest with
  | nil => rfl
  | cons c rest =>
      rw [fractionPart]
      exact fun _ heq => hstops.2.1 (List.head_eq_of_cons_eq heq)

theorem exponentPart_of_stops (hstops : Stops rest) : exponentPart rest = some (none, rest) := by
  cases rest with
  | nil => rfl
  | cons c rest =>
      obtain ⟨-, -, hlower, hupper⟩ := hstops
      rw [exponentPart, if_neg (by simp [hlower, hupper])]

theorem unsignedNumber_toDigits (negative : Bool) (n : Nat) (hstops : Stops rest) :
    unsignedNumber negative (Nat.toDigits 10 n ++ rest) = some (ofWhole negative n, rest) := by
  rw [unsignedNumber, wholePart_toDigits n hstops]
  simp [fractionPart_of_stops hstops, exponentPart_of_stops hstops, digitsValue_toDigits]

/-- The numbers that are written without a point and read as they are. -/
def FitsWhole (found : Int) : Prop := -0x8000000000000000 ≤ found ∧ found < UInt64.size

theorem number_toString {found : Int} (hfits : FitsWhole found) (hstops : Stops rest) :
    number ((toString found).toList ++ rest) = some (.int found, rest) := by
  obtain ⟨hlow, hhigh⟩ := hfits
  cases found with
  | ofNat n =>
      have hfits : n < UInt64.size := Int.ofNat_lt.mp hhigh
      have hread := unsignedNumber_toDigits false n hstops
      obtain ⟨c, digits, hdigits, hdigit⟩ := exists_front_toDigits n
      rw [Int.ofNat_eq_natCast, toList_toString_ofNat]
      rw [hdigits, List.cons_append] at hread ⊢
      rw [number, hread, ofWhole, if_neg nofun, if_pos hfits]
      -- no digit is a minus sign
      intro _ heq
      cases List.head_eq_of_cons_eq heq
      exact absurd hdigit (by decide)
  | negSucc n =>
      have hfits : n + 1 ≤ 2 ^ 63 := by omega
      rw [toList_toString_negSucc, List.cons_append, number,
        unsignedNumber_toDigits true (n + 1) hstops, ofWhole, if_pos rfl,
        if_neg (by simp; omega)]
      rfl

/-! ### Values -/

/-- Whether a value is found at the front of whatever begins with a text, with fuel for twice the
length of the text. No blank and no closing bracket comes first, as that would end a list. -/
structure Reads (found : Json) (chars : List Char) : Prop where
  front : ∃ c tail, chars = c :: tail ∧ isBlank c = false ∧ c ≠ ']'
  read : ∀ fuel rest, 2 * chars.length ≤ fuel → Stops rest →
    value fuel (chars ++ rest) = some (found, rest)

variable {chars : List Char} {found : Json}

theorem skipBlanks_cons {c : Char} (hc : isBlank c = false) : skipBlanks (c :: rest) = c :: rest :=
  List.dropWhile_cons_of_neg (by rw [hc]; nofun)

/-- A value is read with some fuel left over. -/
theorem reads_of_succ {c : Char} (hblank : isBlank c = false) (hclose : c ≠ ']')
    (hread : ∀ fuel rest, 2 * chars.length + 1 ≤ fuel → Stops rest →
      value (fuel + 1) (c :: (chars ++ rest)) = some (found, rest)) :
    Reads found (c :: chars) where
  front := ⟨c, chars, rfl, hblank, hclose⟩
  read fuel rest hfuel hstops := by
    rw [List.length_cons] at hfuel
    obtain ⟨fuel, rfl⟩ := Nat.exists_eq_succ_of_ne_zero (show fuel ≠ 0 by omega)
    exact hread fuel rest (by omega) hstops

theorem reads_null : Reads .null "null".toList :=
  reads_of_succ (by decide) (by decide) fun fuel rest _ _ => by
    change value (fuel + 1) ('n' :: 'u' :: 'l' :: 'l' :: rest) = _
    rw [value, skipBlanks_cons (by decide)]
    rfl

theorem reads_bool (truth : Bool) :
    Reads (.bool truth) (if truth then "true" else "false").toList := by
  cases truth
  · refine reads_of_succ (by decide) (by decide) fun fuel rest _ _ => ?_
    change value (fuel + 1) ('f' :: 'a' :: 'l' :: 's' :: 'e' :: rest) = _
    rw [value, skipBlanks_cons (by decide)]
    rfl
  · refine reads_of_succ (by decide) (by decide) fun fuel rest _ _ => ?_
    change value (fuel + 1) ('t' :: 'r' :: 'u' :: 'e' :: rest) = _
    rw [value, skipBlanks_cons (by decide)]
    rfl

theorem reads_text (text : String) : Reads (.text text) (quotedChars text) := by
  refine reads_of_succ (by decide) (by decide) fun fuel rest _ _ => ?_
  rw [List.append_assoc, value, skipBlanks_cons (by decide)]
  change (textTail (text.toList.flatMap quotedChar ++ '"' :: rest)).bind _ = _
  rw [textTail_quoted]
  rfl

theorem isBlank_of_number {c : Char} (hc : isDigit c = true ∨ c = '-') : isBlank c = false := by
  refine Bool.eq_false_iff.mpr fun hblank => ?_
  simp only [isBlank, Bool.or_eq_true, beq_iff_eq] at hblank
  rcases hblank with ((rfl | rfl) | rfl) | rfl <;> exact absurd hc (by decide)

/-- No other value begins like a number. -/
theorem value_of_number {fuel : Nat} {c : Char} (hc : isDigit c = true ∨ c = '-') :
    value (fuel + 1) (c :: rest) = number (c :: rest) := by
  rw [value, skipBlanks_cons (isBlank_of_number hc)]
  split <;> rename_i heq <;> first
    | rfl
    | (cases List.head_eq_of_cons_eq heq; exact absurd hc (by decide))

theorem reads_int {found : Int} (hfits : FitsWhole found) :
    Reads (.int found) (toString found).toList := by
  obtain ⟨c, chars, hchars, hc⟩ : ∃ c chars, (toString found).toList = c :: chars ∧
      (isDigit c = true ∨ c = '-') := by
    cases found with
    | ofNat n =>
        obtain ⟨c, digits, hdigits, hdigit⟩ := exists_front_toDigits n
        exact ⟨c, digits, (toList_toString_ofNat n).trans hdigits, .inl hdigit⟩
    | negSucc n => exact ⟨'-', _, toList_toString_negSucc n, .inr rfl⟩
  have hclose : c ≠ ']' := by
    rintro rfl
    exact absurd hc (by decide)
  rw [hchars]
  refine reads_of_succ (isBlank_of_number hc) hclose fun fuel rest _ hstops => ?_
  rw [value_of_number hc, ← List.cons_append, ← hchars, number_toString hfits hstops]

/-! ### Lists -/

section Lists

variable {α β : Type} {scan : Nat → Scan (List β)} {close : Char} {shows : α → List Char → Prop}
  {read : α → β}

/-- Whether a list is read item by item: after each item, a comma or the end of the list is read,
and then, with less fuel, whatever is left. -/
def ScansItems (scan : Nat → Scan (List β)) (close : Char) (shows : α → List Char → Prop)
    (read : α → β) : Prop :=
  ∀ {item chars} fuel rest, shows item chars → 2 * chars.length ≤ fuel → Stops rest →
    scan (fuel + 1) (chars ++ rest) =
      (afterItem close (skipBlanks rest)).bind fun more =>
        if more.1 then (scan fuel more.2).map fun others => (read item :: others.1, others.2)
        else some ([read item], more.2)

theorem ScansItems.intercalate (hscan : ScansItems scan close shows read)
    (hclose : close = ']' ∨ close = '\x7d') {found : List α} {texts : List (List Char)}
    (hshows : List.Forall₂ shows found texts) (hnonempty : found ≠ []) {fuel : Nat}
    (hfuel : 2 * ([','].intercalate texts).length + 1 ≤ fuel) :
    scan fuel ([','].intercalate texts ++ close :: rest) = some (found.map read, rest) := by
  induction hshows generalizing fuel with
  | nil => contradiction
  | @cons first text found texts hfirst hrest ih =>
      obtain ⟨fuel, rfl⟩ := Nat.exists_eq_succ_of_ne_zero (show fuel ≠ 0 by omega)
      cases hrest with
      | nil =>
          rw [List.intercalate_singleton] at hfuel ⊢
          rw [Nat.succ_eq_add_one,
            hscan fuel (close :: rest) hfirst (by omega) (stops_of_delimiter (.inr hclose))]
          rcases hclose with rfl | rfl <;> rfl
      | @cons second next found texts hsecond hothers =>
          rw [List.intercalate_cons_cons] at hfuel ⊢
          simp only [List.length_append, List.length_singleton] at hfuel
          simp only [List.append_assoc, List.cons_append, List.nil_append]
          have hmore : scan fuel ([','].intercalate (next :: texts) ++ close :: rest) =
              some ((second :: found).map read, rest) := ih nofun (by omega)
          rw [Nat.succ_eq_add_one,
            hscan fuel (',' :: _) hfirst (by omega) (stops_of_delimiter (.inl rfl))]
          change (scan fuel ([','].intercalate (next :: texts) ++ close :: rest)).map _ = _
          rw [hmore]
          rfl

end Lists

theorem scansItems_items : ScansItems items ']' Reads id := by
  intro first chars fuel rest hfirst hfuel hstops
  rw [items, hfirst.read fuel rest hfuel hstops]
  change (afterItem ']' (skipBlanks rest)).bind _ = _
  refine Option.bind_congr fun more _ => ?_
  obtain ⟨goesOn, rest⟩ := more
  cases goesOn with
  | false => rfl
  | true =>
      change (items fuel rest).bind _ = (items fuel rest).map _
      cases items fuel rest <;> rfl

theorem intercalate_cons_front (c : Char) (tail : List Char) (texts : List (List Char)) :
    ∃ more, [','].intercalate ((c :: tail) :: texts) = c :: more := by
  cases texts with
  | nil => exact ⟨tail, List.intercalate_singleton⟩
  | cons text texts => exact ⟨_, by rw [List.intercalate_cons_cons]; rfl⟩

theorem value_bracket {fuel : Nat} :
    value (fuel + 1) ('[' :: rest) =
      match skipBlanks rest with
      | ']' :: rest => some (.array [], rest)
      | rest => (items fuel rest).map fun more => (.array more.1, more.2) := by
  rw [value, skipBlanks_cons (by decide)]
  change (match skipBlanks rest with
    | ']' :: rest => some (array [], rest)
    | rest => (items fuel rest).bind _) = _
  split
  · rfl
  · cases items fuel _ <;> rfl

theorem reads_array {found : List Json} {texts : List (List Char)}
    (hreads : List.Forall₂ Reads found texts) :
    Reads (.array found) ('[' :: ([','].intercalate texts ++ [']'])) := by
  refine reads_of_succ (by decide) (by decide) fun fuel rest hfuel _ => ?_
  rw [List.append_assoc, List.singleton_append, value_bracket]
  rw [List.length_append, List.length_singleton] at hfuel
  cases hreads with
  | nil => rfl
  | @cons first text found texts hfirst hrest =>
      obtain ⟨c, tail, rfl, hblank, hclose⟩ := hfirst.front
      have hread : items fuel ([','].intercalate ((c :: tail) :: texts) ++ ']' :: rest) =
          some ((first :: found).map id, rest) :=
        scansItems_items.intercalate (.inl rfl) (.cons hfirst hrest) nofun (by omega)
      obtain ⟨more, hmore⟩ := intercalate_cons_front c tail texts
      rw [hmore, List.cons_append] at hread ⊢
      rw [skipBlanks_cons hblank]
      split
      · rename_i heq
        exact absurd (List.head_eq_of_cons_eq heq) hclose
      · rw [hread, List.map_id]
        rfl

/-! ### Objects -/

def ReadsMember (member : String × Json) (chars : List Char) : Prop :=
  ∃ shown, chars = quotedChars member.1 ++ ':' :: shown ∧ Reads member.2 shown

theorem scansItems_members :
    ScansItems members '\x7d' ReadsMember fun member => (some member.1, member.2) := by
  rintro member - fuel rest ⟨shown, rfl, hshown⟩ hfuel hstops
  simp only [List.length_append, List.length_cons] at hfuel
  rw [quotedChars, members]
  simp only [List.append_assoc, List.cons_append, List.nil_append]
  rw [skipBlanks_cons (by decide)]
  change (textTail (member.1.toList.flatMap quotedChar ++ '"' :: ':' :: (shown ++ rest))).bind _ = _
  rw [textTail_quoted]
  change (value fuel (shown ++ rest)).bind _ = _
  rw [hshown.read fuel rest (by omega) hstops]
  change (afterItem '\x7d' (skipBlanks rest)).bind _ = _
  refine Option.bind_congr fun more _ => ?_
  obtain ⟨goesOn, rest⟩ := more
  cases goesOn with
  | false => rfl
  | true =>
      change (members fuel rest).bind _ = (members fuel rest).map _
      cases members fuel rest <;> rfl

theorem ofMembers_map (found : List (String × Json)) :
    ofMembers (found.map fun member => (some member.1, member.2)) = .object found := by
  have hall : (found.map fun member => (some member.1, member.2)).mapM
      (fun member : Option String × Json => member.1.map fun key => (key, member.2)) =
        some found := by
    rw [List.mapM_map]
    exact (mapM_eq_some_map fun _ _ => rfl).trans (congrArg some (List.map_id found))
  rw [ofMembers, hall]

theorem value_brace {fuel : Nat} :
    value (fuel + 1) ('\x7b' :: rest) =
      match skipBlanks rest with
      | '\x7d' :: rest => some (.object [], rest)
      | rest => (members fuel rest).map fun more => (ofMembers more.1, more.2) := by
  rw [value, skipBlanks_cons (by decide)]
  change (match skipBlanks rest with
    | '\x7d' :: rest => some (object [], rest)
    | rest => (members fuel rest).bind _) = _
  split
  · rfl
  · cases members fuel _ <;> rfl

theorem reads_object {found : List (String × Json)} {texts : List (List Char)}
    (hreads : List.Forall₂ ReadsMember found texts) :
    Reads (.object found) ('\x7b' :: ([','].intercalate texts ++ ['\x7d'])) := by
  refine reads_of_succ (by decide) (by decide) fun fuel rest hfuel _ => ?_
  rw [List.append_assoc, List.singleton_append, value_brace]
  rw [List.length_append, List.length_singleton] at hfuel
  cases hreads with
  | nil => rfl
  | @cons first text found texts hfirst hrest =>
      have hread : members fuel ([','].intercalate (text :: texts) ++ '\x7d' :: rest) =
          some ((first :: found).map fun member => (some member.1, member.2), rest) :=
        scansItems_members.intercalate (.inr rfl) (.cons hfirst hrest) nofun (by omega)
      obtain ⟨shown, rfl, -⟩ := hfirst
      obtain ⟨more, hmore⟩ := intercalate_cons_front '"'
        (first.1.toList.flatMap quotedChar ++ ['"'] ++ ':' :: shown) texts
      rw [quotedChars, List.cons_append, hmore, List.cons_append] at hread ⊢
      rw [skipBlanks_cons (by decide)]
      change (members fuel ('"' :: (more ++ '\x7d' :: rest))).map _ = _
      rw [hread, Option.map_some, ofMembers_map]

/-! ### Whole texts -/

section Render

variable (writeReal : Binary64 → String)

mutual

/-- Whether a value has a text to be read from, if numbers with a point are written so. -/
def Readable : Json → Prop
  | .int found => FitsWhole found
  | .real found => Reads (.real found) (writeReal found).toList
  | .array items => ReadableItems items
  | .object members => ReadableMembers members
  | .unreadable => False
  | _ => True

def ReadableItems : List Json → Prop
  | [] => True
  | item :: rest => Readable item ∧ ReadableItems rest

def ReadableMembers : List (String × Json) → Prop
  | [] => True
  | (_, item) :: rest => Readable item ∧ ReadableMembers rest

end

mutual

theorem reads_render : (found : Json) → found.Readable writeReal →
    Reads found (found.render writeReal).toList
  | .null, _ => reads_null
  | .bool truth, _ => by
      rw [render]
      exact reads_bool truth
  | .int _, hreadable => reads_int hreadable
  | .real _, hreadable => hreadable
  | .text shown, _ => by
      rw [render, quoted, String.toList_ofList]
      exact reads_text shown
  | .array items, hreadable => by
      have hread := reads_array (reads_renderItems items hreadable)
      simpa [render, String.toList_append, String.toList_intercalate] using hread
  | .object members, hreadable => by
      have hread := reads_object (reads_renderMembers members hreadable)
      simpa [render, String.toList_append, String.toList_intercalate] using hread

theorem reads_renderItems : (items : List Json) → ReadableItems writeReal items →
    List.Forall₂ Reads items ((renderItems writeReal items).map String.toList)
  | [], _ => .nil
  | item :: rest, hreadable =>
      .cons (reads_render item hreadable.1) (reads_renderItems rest hreadable.2)

theorem reads_renderMembers : (members : List (String × Json)) →
    ReadableMembers writeReal members →
      List.Forall₂ ReadsMember members ((renderMembers writeReal members).map String.toList)
  | [], _ => .nil
  | (key, item) :: rest, hreadable => by
      refine .cons ⟨_, ?_, reads_render item hreadable.1⟩ (reads_renderMembers rest hreadable.2)
      simp [quoted, String.toList_append]

end

/-- **A value is read back from its text.** -/
theorem parse_render (hreadable : found.Readable writeReal) :
    parse? (found.render writeReal) = some found := by
  have hread := (reads_render writeReal found hreadable).read
    (2 * (found.render writeReal).toList.length + 2) [] (by omega) trivial
  rw [List.append_nil] at hread
  rw [parse?]
  change (value _ (found.render writeReal).toList).bind _ = _
  rw [hread]
  rfl

/-! ### Lines -/

theorem newline_not_mem_quotedChar (c : Char) : '\n' ∉ quotedChar c := by
  unfold quotedChar
  split
  case h_8 hnewline _ _ _ _ =>
    split
    · rename_i hcontrol
      have hall : ∀ code < 0x20, '\n' ∉ ['\\', 'u'] ++ hexDigits 4 code := by decide
      exact hall c.toNat hcontrol
    · rw [List.mem_singleton]
      exact fun heq => hnewline heq.symm
  all_goals decide

theorem newline_not_mem_quoted (text : String) : '\n' ∉ (quoted text).toList := by
  rw [quoted, String.toList_ofList, quotedChars]
  simp [List.mem_flatMap, newline_not_mem_quotedChar]

theorem newline_not_mem_toString (found : Int) : '\n' ∉ (toString found).toList := by
  have hdigits : ∀ n, '\n' ∉ Nat.toDigits 10 n := fun n hmem =>
    absurd (isDigit_of_mem_toDigits hmem) (by decide)
  cases found with
  | ofNat n =>
      rw [Int.ofNat_eq_natCast, toList_toString_ofNat]
      exact hdigits n
  | negSucc n =>
      rw [toList_toString_negSucc, List.mem_cons, not_or]
      exact ⟨by decide, hdigits (n + 1)⟩

theorem newline_not_mem_intercalate {texts : List String}
    (htexts : ∀ text ∈ texts, '\n' ∉ text.toList) :
    '\n' ∉ [','].intercalate (texts.map String.toList) := by
  induction texts with
  | nil => exact List.not_mem_nil
  | cons text texts ih =>
      have hrest := ih fun text hmem => htexts text (List.mem_cons_of_mem _ hmem)
      have hfirst := htexts text List.mem_cons_self
      cases texts with
      | nil => simpa using hfirst
      | cons next texts =>
          rw [List.map_cons, List.map_cons, List.intercalate_cons_cons, ← List.map_cons]
          simp only [List.mem_append, not_or]
          exact ⟨⟨hfirst, by decide⟩, hrest⟩

variable {writeReal}

mutual

/-- The text of a value is a single line. -/
theorem newline_not_mem_render (hreal : ∀ found, '\n' ∉ (writeReal found).toList) :
    (found : Json) → '\n' ∉ (found.render writeReal).toList
  | .null => by
      rw [render]
      decide
  | .bool truth => by
      rw [render]
      cases truth <;> decide
  | .int found => newline_not_mem_toString found
  | .real found => hreal found
  | .text shown => newline_not_mem_quoted shown
  | .array items => by
      have hitems := newline_not_mem_intercalate (newline_not_mem_renderItems hreal items)
      simp [render, String.toList_append, String.toList_intercalate, hitems]
  | .object members => by
      have hmembers := newline_not_mem_intercalate (newline_not_mem_renderMembers hreal members)
      simp [render, String.toList_append, String.toList_intercalate, hmembers]
  | .unreadable => by
      rw [render]
      decide

theorem newline_not_mem_renderItems (hreal : ∀ found, '\n' ∉ (writeReal found).toList) :
    (items : List Json) → ∀ shown ∈ renderItems writeReal items, '\n' ∉ shown.toList
  | [], _, hmem => absurd hmem List.not_mem_nil
  | item :: rest, shown, hmem => by
      rcases List.mem_cons.mp hmem with rfl | hmem
      · exact newline_not_mem_render hreal item
      · exact newline_not_mem_renderItems hreal rest shown hmem

theorem newline_not_mem_renderMembers (hreal : ∀ found, '\n' ∉ (writeReal found).toList) :
    (members : List (String × Json)) →
      ∀ shown ∈ renderMembers writeReal members, '\n' ∉ shown.toList
  | [], _, hmem => absurd hmem List.not_mem_nil
  | (key, item) :: rest, shown, hmem => by
      rcases List.mem_cons.mp hmem with rfl | hmem
      · have hkey := newline_not_mem_quoted key
        have hitem := newline_not_mem_render hreal item
        simp [String.toList_append, hkey, hitem]
      · exact newline_not_mem_renderMembers hreal rest shown hmem

end

end Render

end Json

end SubscriptionDesk

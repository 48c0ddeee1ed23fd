import Mathlib.Data.List.Forall2
import SubscriptionDesk.Priority
import SubscriptionDesk.Proofs.DigitRows
import SubscriptionDesk.Proofs.TrimmedTexts

/-!
# Texts that stand for a priority

A priority may be given by its number or by its label, with blanks around it. The number may have a
plus sign and any number of zeros in front, and the label may be in any mixture of small and capital
letters. All texts of this form are read, and no others: a number that is too large for eight bits
does not come round to one of the three again, and it is no label either.
-/

namespace SubscriptionDesk

namespace Text

/-- Whether two characters are the same but for the case of a letter of ASCII. -/
inductive SameButCase : Char → Char → Prop where
  | same (c : Char) : SameButCase c c
  | capital {c d : Char} : 'A' ≤ c → c ≤ 'Z' → d.toNat = c.toNat + 32 → SameButCase c d
  | small {c d : Char} : 'A' ≤ d → d ≤ 'Z' → c.toNat = d.toNat + 32 → SameButCase c d

theorem toNat_lowerAscii (c : Char) :
    (lowerAscii c).toNat =
      if 65 ≤ c.toNat ∧ c.toNat ≤ 90 then c.toNat + 32 else c.toNat := by
  have hcapital : ('A' ≤ c && c ≤ 'Z') = true ↔ 65 ≤ c.toNat ∧ c.toNat ≤ 90 := by
    rw [Bool.and_eq_true, decide_eq_true_eq, decide_eq_true_eq]
    exact Iff.rfl
  rw [lowerAscii]
  split
  · rename_i hletter
    have hcode := hcapital.mp hletter
    have hvalid : (c.toNat + 32).isValidChar := .inl (by omega)
    rw [if_pos hcode, Char.ofNat, dif_pos hvalid]
    rfl
  · rename_i hother
    exact (if_neg (mt hcapital.mpr hother)).symm

theorem lowerAscii_eq_iff {c d : Char} : lowerAscii c = lowerAscii d ↔ SameButCase c d := by
  rw [← Char.toNat_inj, toNat_lowerAscii, toNat_lowerAscii]
  constructor
  · intro hlower
    split at hlower <;> split at hlower
    · obtain rfl : c = d := Char.toNat_inj.mp (by omega)
      exact .same c
    · rename_i hc hd
      exact .capital hc.1 hc.2 hlower.symm
    · rename_i hc hd
      exact .small hd.1 hd.2 hlower
    · exact Char.toNat_inj.mp hlower ▸ .same c
  · intro hsame
    cases hsame with
    | same => rfl
    | capital hlow hhigh hcode =>
        have hlow : 65 ≤ c.toNat := hlow
        have hhigh : c.toNat ≤ 90 := hhigh
        rw [hcode, if_pos ⟨hlow, hhigh⟩, if_neg (by omega)]
    | small hlow hhigh hcode =>
        have hlow : 65 ≤ d.toNat := hlow
        have hhigh : d.toNat ≤ 90 := hhigh
        rw [hcode, if_neg (by omega), if_pos ⟨hlow, hhigh⟩]

theorem map_lowerAscii_eq_iff {chars other : List Char} :
    chars.map lowerAscii = other.map lowerAscii ↔ List.Forall₂ SameButCase chars other := by
  rw [← List.forall₂_eq_eq_eq, List.forall₂_map_left_iff, List.forall₂_map_right_iff]
  simp only [lowerAscii_eq_iff]

end Text

namespace Priority

open Text

variable {chars : List Char} {priority : Priority}

/-- The texts that stand for a priority, when there are no blanks around them. -/
inductive Spells : List Char → Priority → Prop where
  | number {priority : Priority} {sign digits : List Char} :
      sign = [] ∨ sign = ['+'] → Numeral digits priority.number.toNat →
      Spells (sign ++ digits) priority
  | label {priority : Priority} {chars : List Char} :
      List.Forall₂ SameButCase chars priority.label.toList → Spells chars priority

theorem ofNumber?_eq_some_iff {number : UInt8} :
    ofNumber? number = some priority ↔ number = priority.number := by
  constructor
  · intro hnumber
    unfold ofNumber? at hnumber
    split at hnumber <;> cases hnumber <;> rfl
  · rintro rfl
    cases priority <;> rfl

theorem natural?_eq_some_number_iff {value : Nat} :
    (if value < 256 then ofNumber? (UInt8.ofNat value) else none) = some priority ↔
      value = priority.number.toNat := by
  constructor
  · intro hvalue
    split at hvalue
    · rename_i hfits
      rw [← ofNumber?_eq_some_iff.mp hvalue]
      exact (UInt8.toNat_ofNat_of_lt' hfits).symm
    · contradiction
  · rintro rfl
    rw [if_pos priority.number.toNat_lt, UInt8.ofNat_toNat, ofNumber?_eq_some_iff]

/-- The label is looked for in the order of the priorities, and no two have the same. -/
theorem find?_label_eq_some_iff :
    (all.find? fun priority =>
        chars.map lowerAscii == priority.label.toList.map lowerAscii) = some priority ↔
      List.Forall₂ SameButCase chars priority.label.toList := by
  rw [← map_lowerAscii_eq_iff]
  constructor
  · intro hfound
    obtain ⟨hequal, -⟩ := List.find?_eq_some_iff_append.mp hfound
    exact eq_of_beq hequal
  · intro hlabel
    rw [hlabel]
    cases priority <;> rfl

/-- No label begins like a number. -/
theorem natural?_eq_none_of_label
    (hlabel : List.Forall₂ SameButCase chars priority.label.toList) : natural? chars = none := by
  have hfirst : ∃ first rest, priority.label.toList = first :: rest ∧
      72 ≤ first.toNat ∧ first.toNat ≤ 78 := by
    cases priority <;> exact ⟨_, _, rfl, by decide, by decide⟩
  obtain ⟨first, rest, hrest, hlow, hhigh⟩ := hfirst
  rw [hrest] at hlabel
  cases hlabel with
  | @cons c _ others _ hsame _ =>
      have hcode : 65 ≤ c.toNat := by
        cases hsame with
        | same => omega
        | capital hletter => exact hletter
        | small => omega
      refine Option.eq_none_iff_forall_ne_some.mpr fun value hvalue => ?_
      obtain ⟨sign, digits, rfl | rfl, hchars, hnumeral⟩ := natural?_eq_some_iff.mp hvalue
      · rw [List.nil_append] at hchars
        have hdigit : c.toNat ≤ 57 := (hnumeral.digits c (hchars ▸ List.mem_cons_self)).2
        omega
      · obtain rfl : c = '+' := List.head_eq_of_cons_eq hchars
        contradiction

theorem spells_iff :
    Spells chars priority ↔
      natural? chars = some priority.number.toNat ∨
        List.Forall₂ SameButCase chars priority.label.toList := by
  rw [natural?_eq_some_iff]
  constructor
  · rintro (⟨hsign, hnumeral⟩ | hlabel)
    · exact .inl ⟨_, _, hsign, rfl, hnumeral⟩
    · exact .inr hlabel
  · rintro (⟨sign, digits, hsign, rfl, hnumeral⟩ | hlabel)
    · exact .number hsign hnumeral
    · exact .label hlabel

theorem ofTrimmed?_eq_some_iff : ofTrimmed? chars = some priority ↔ Spells chars priority := by
  rw [spells_iff]
  unfold ofTrimmed?
  cases hnatural : natural? chars with
  | some value =>
      dsimp only
      rw [natural?_eq_some_number_iff, Option.some_inj]
      refine ⟨.inl, fun hspells => hspells.resolve_right fun hlabel => ?_⟩
      rw [natural?_eq_none_of_label hlabel] at hnatural
      contradiction
  | none =>
      dsimp only
      rw [find?_label_eq_some_iff]
      exact ⟨.inr, fun hspells => hspells.resolve_left nofun⟩

/-! ### Numbers of eight bits -/

/-- Takes one more digit into a number of eight bits, if it is a digit and the number does not get
too large. -/
def pushDigit? (value : UInt8) (c : Char) : Option UInt8 :=
  let pushed := 10 * value.toNat + digitValue c
  if isDigit c && decide (pushed < 256) then some (.ofNat pushed) else none

def octet? (chars : List Char) : Option UInt8 :=
  let digits := unsigned chars
  if digits.isEmpty then none else digits.foldlM pushDigit? 0

/-- Recognises a priority with a number of eight bits. A number that gets too large is looked for
among the labels, like anything else that is no number. -/
def ofOctet? (chars : List Char) : Option Priority :=
  match octet? chars with
  | some number => ofNumber? number
  | none => all.find? fun priority => chars.map lowerAscii == priority.label.toList.map lowerAscii

theorem le_foldl_digits (digits : List Char) (value : Nat) :
    value ≤ digits.foldl (fun value digit => 10 * value + digitValue digit) value := by
  induction digits generalizing value with
  | nil => exact Nat.le_refl _
  | cons digit rest ih =>
      rw [List.foldl_cons]
      exact Nat.le_trans (by omega) (ih _)

theorem foldlM_pushDigit? (digits : List Char) (value : UInt8) :
    digits.foldlM pushDigit? value =
      let total := digits.foldl (fun value digit => 10 * value + digitValue digit) value.toNat
      if digits.all isDigit && decide (total < 256) then some (.ofNat total) else none := by
  induction digits generalizing value with
  | nil => simp [value.toNat_lt]
  | cons digit rest ih =>
      rw [List.foldlM_cons, List.foldl_cons, List.all_cons, pushDigit?]
      dsimp only
      generalize hpushed : 10 * value.toNat + digitValue digit = pushed
      cases hdigit : isDigit digit with
      | false => simp
      | true =>
          by_cases hfits : pushed < 256
          · have htoNat : (UInt8.ofNat pushed).toNat = pushed := UInt8.toNat_ofNat_of_lt' hfits
            simp only [hfits, decide_true, Bool.true_and, if_true, Option.bind_eq_bind,
              Option.bind_some]
            rw [ih, htoNat]
          · -- once the number is too large, it stays so
            have hlarge := le_foldl_digits rest pushed
            have hnever : ¬rest.foldl (fun value digit => 10 * value + digitValue digit) pushed <
                256 := by omega
            simp [hfits, hnever]

theorem octet?_eq (chars : List Char) :
    octet? chars =
      (natural? chars).bind fun value => if value < 256 then some (.ofNat value) else none := by
  rw [octet?, natural?_eq]
  cases hempty : (unsigned chars).isEmpty with
  | true => simp
  | false =>
      rw [foldlM_pushDigit?]
      cases hall : (unsigned chars).all isDigit <;> simp [digitsValue]

theorem ofOctet?_eq_ofTrimmed? (chars : List Char) : ofOctet? chars = ofTrimmed? chars := by
  unfold ofOctet? ofTrimmed?
  rw [octet?_eq]
  cases hnatural : natural? chars with
  | none => rfl
  | some value =>
      rw [Option.bind_some]
      dsimp only
      by_cases hfits : value < 256
      · rw [if_pos hfits, if_pos hfits]
      · rw [if_neg hfits, if_neg hfits]
        refine Option.eq_none_iff_forall_ne_some.mpr fun priority hfound => ?_
        have hnone := natural?_eq_none_of_label (find?_label_eq_some_iff.mp hfound)
        rw [hnatural] at hnone
        contradiction

/-! ### Texts with blanks around them -/

theorem ofText_eq_ok_iff {text : String} :
    ofText text = .ok priority ↔ Spells (trimmedChars text.toList) priority := by
  rw [← ofTrimmed?_eq_some_iff]
  unfold ofText
  cases ofTrimmed? (trimmedChars text.toList) <;> simp

theorem ofText_eq_error_iff {text : String} {fault : SubscriptionFault} :
    ofText text = .error fault ↔
      (∀ priority, ¬Spells (trimmedChars text.toList) priority) ∧
        fault = .unknownPriority (trimmed text) := by
  simp only [← ofTrimmed?_eq_some_iff]
  unfold ofText
  cases ofTrimmed? (trimmedChars text.toList) <;> simp [eq_comm]

structure ReadExactly (text : String) : Prop where
  /-- What is looked at is the text without the blanks around it. -/
  word : ∀ word : String, Trims text.toList word.toList ↔ word = trimmed text
  ok_iff : ∀ priority, ofText text = .ok priority ↔ Spells (trimmed text).toList priority
  error_iff : ∀ fault, ofText text = .error fault ↔
    (∀ priority, ¬Spells (trimmed text).toList priority) ∧ fault = .unknownPriority (trimmed text)
  octet : ofOctet? (trimmed text).toList = ofTrimmed? (trimmed text).toList
  label : ∀ priority : Priority, text = priority.label → ofText text = .ok priority
  number : ∀ priority : Priority, text = toString priority.number → ofText text = .ok priority

/-- **A priority is read from all texts that stand for it**, and from nothing else. -/
theorem ofText_readExactly (text : String) : ReadExactly text := by
  have htrimmed : (trimmed text).toList = trimmedChars text.toList := String.toList_ofList
  constructor
  case word =>
    intro word
    rw [trims_iff, ← htrimmed, String.toList_inj]
  case ok_iff =>
    intro priority
    rw [htrimmed]
    exact ofText_eq_ok_iff
  case error_iff =>
    intro fault
    rw [htrimmed]
    exact ofText_eq_error_iff
  case octet => exact ofOctet?_eq_ofTrimmed? _
  case label =>
    rintro priority rfl
    have hsolid : trimmedChars priority.label.toList = priority.label.toList := by
      cases priority <;> rfl
    rw [ofText_eq_ok_iff, hsolid]
    exact .label (List.forall₂_same.mpr fun c _ => .same c)
  case number =>
    rintro priority rfl
    have hdigits : (toString priority.number).toList = Nat.toDigits 10 priority.number.toNat := by
      change (Nat.repr priority.number.toNat).toList = _
      rw [Nat.toList_repr]
    have hsolid : trimmedChars (Nat.toDigits 10 priority.number.toNat) =
        [] ++ Nat.toDigits 10 priority.number.toNat := by
      cases priority <;> rfl
    rw [ofText_eq_ok_iff, hdigits, hsolid]
    exact .number (.inl rfl) (numeral_toDigits _)

/-- A number that has the last eight bits of two is not read as two. -/
example : ofText "258" = .error (.unknownPriority "258") := by rfl

end Priority

end SubscriptionDesk

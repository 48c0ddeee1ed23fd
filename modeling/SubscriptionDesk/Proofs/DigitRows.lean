import Mathlib.Data.List.Induction
import Mathlib.Data.Nat.Digits.Defs
import SubscriptionDesk.Text.Digits

/-!
# Rows of decimal digits

A row of digits is worth the sum of its digits, each times the power of ten that its place has. All
numbers are read by this rule, and written so that it gives them back, with zeros in front where the
row has to have a certain length.
-/

namespace SubscriptionDesk.Text

variable {chars digits : List Char} {value width : Nat}

theorem isDigit_eq (c : Char) : isDigit c = c.isDigit := by
  rw [isDigit, Char.isDigit]
  rfl

theorem isDigit_iff {c : Char} : isDigit c = true ↔ '0' ≤ c ∧ c ≤ '9' := by
  rw [isDigit, Bool.and_eq_true, decide_eq_true_eq, decide_eq_true_eq]

theorem digitValue_digitChar {digit : Nat} (hdigit : digit < 10) :
    digitValue digit.digitChar = digit := by
  have hall : ∀ digit < 10, digitValue (Nat.digitChar digit) = digit := by decide
  exact hall digit hdigit

theorem isDigit_digitChar {digit : Nat} (hdigit : digit < 10) : isDigit digit.digitChar = true := by
  have hall : ∀ digit < 10, isDigit (Nat.digitChar digit) = true := by decide
  exact hall digit hdigit

theorem digitValue_lt {c : Char} (hdigit : isDigit c = true) : digitValue c < 10 := by
  have hcode : c.toNat ≤ 57 := (isDigit_iff.mp hdigit).2
  have hzero : '0'.toNat = 48 := rfl
  rw [digitValue, hzero]
  omega

theorem digitChar_digitValue {c : Char} (hdigit : isDigit c = true) :
    (digitValue c).digitChar = c := by
  have hcode : 48 ≤ c.toNat := (isDigit_iff.mp hdigit).1
  have hall : ∀ digit < 10, (Nat.digitChar digit).toNat = 48 + digit := by decide
  have hzero : '0'.toNat = 48 := rfl
  refine Char.toNat_inj.mp ((hall _ (digitValue_lt hdigit)).trans ?_)
  rw [digitValue, hzero]
  omega

/-! ### Reading -/

/-- Whether a text is one or more digits, and what they are worth together. -/
structure Numeral (chars : List Char) (value : Nat) : Prop where
  nonempty : chars ≠ []
  digits : ∀ c ∈ chars, '0' ≤ c ∧ c ≤ '9'
  /-- Places are counted from the end. -/
  value : Nat.ofDigits 10 (chars.reverse.map digitValue) = value

theorem digitsValue_eq_ofDigits (digits : List Char) :
    digitsValue digits = Nat.ofDigits 10 (digits.reverse.map digitValue) := by
  rw [digitsValue, List.foldl_eq_foldr_reverse, Nat.ofDigits_eq_foldr, List.foldr_map]
  simp only [Nat.cast_id, Nat.add_comm]

theorem numeral_iff :
    Numeral chars value ↔
      chars ≠ [] ∧ (∀ c ∈ chars, isDigit c = true) ∧ digitsValue chars = value := by
  rw [digitsValue_eq_ofDigits]
  constructor
  · exact fun ⟨hnonempty, hdigits, hvalue⟩ =>
      ⟨hnonempty, fun c hc => isDigit_iff.mpr (hdigits c hc), hvalue⟩
  · exact fun ⟨hnonempty, hdigits, hvalue⟩ =>
      ⟨hnonempty, fun c hc => isDigit_iff.mp (hdigits c hc), hvalue⟩

theorem digitsValue_concat (digits : List Char) (c : Char) :
    digitsValue (digits ++ [c]) = 10 * digitsValue digits + digitValue c := by
  rw [digitsValue, List.foldl_append]
  rfl

theorem digitsValue_lt (hdigits : ∀ c ∈ digits, isDigit c = true) :
    digitsValue digits < 10 ^ digits.length := by
  induction digits using List.reverseRecOn with
  | nil => decide
  | append_singleton digits c ih =>
      obtain ⟨hdigits, hc⟩ := List.forall_mem_append.mp hdigits
      have hless := digitValue_lt (hc c List.mem_cons_self)
      have hrest := ih hdigits
      rw [digitsValue_concat, List.length_append, List.length_singleton, Nat.pow_succ]
      omega

def unsigned : List Char → List Char
  | '+' :: rest => rest
  | chars => chars

theorem exists_sign (chars : List Char) :
    ∃ sign, (sign = [] ∨ sign = ['+']) ∧ chars = sign ++ unsigned chars := by
  unfold unsigned
  split
  · exact ⟨['+'], .inr rfl, rfl⟩
  · exact ⟨[], .inl rfl, rfl⟩

theorem unsigned_of_isDigit (hdigits : ∀ c ∈ digits, isDigit c = true) :
    unsigned digits = digits := by
  unfold unsigned
  split
  · exact absurd (hdigits '+' List.mem_cons_self) (by decide)
  · rfl

theorem natural?_eq (chars : List Char) :
    natural? chars =
      if !(unsigned chars).isEmpty && (unsigned chars).all isDigit then
        some (digitsValue (unsigned chars))
      else none := by
  unfold natural? unsigned
  split
  · rfl
  · simp

theorem natural?_eq_some_iff :
    natural? chars = some value ↔
      ∃ sign digits, (sign = [] ∨ sign = ['+']) ∧ chars = sign ++ digits ∧
        Numeral digits value := by
  have hread : natural? chars = some value ↔ Numeral (unsigned chars) value := by
    rw [natural?_eq, numeral_iff]
    simp [and_assoc]
  rw [hread]
  constructor
  · intro hnumeral
    obtain ⟨sign, hsign, hchars⟩ := exists_sign chars
    exact ⟨sign, unsigned chars, hsign, hchars, hnumeral⟩
  · rintro ⟨sign, digits, rfl | rfl, rfl, hnumeral⟩
    · rwa [unsigned_of_isDigit (numeral_iff.mp hnumeral).2.1]
    · exact hnumeral

/-! ### Writing -/

theorem isDigit_of_mem_toDigits {n : Nat} {c : Char} (hc : c ∈ Nat.toDigits 10 n) :
    isDigit c = true :=
  (isDigit_eq c).trans (Nat.isDigit_of_mem_toDigits (by decide) (by decide) hc)

theorem digitsValue_toDigits (n : Nat) : digitsValue (Nat.toDigits 10 n) = n := by
  have hvalue : Nat.ofDigitChars 10 (Nat.toDigits 10 n) 0 = n := Nat.ofDigitChars_ten_toDigits
  rwa [Nat.ofDigitChars_eq_foldl] at hvalue

theorem numeral_toDigits (n : Nat) : Numeral (Nat.toDigits 10 n) n :=
  numeral_iff.mpr
    ⟨Nat.toDigits_ne_nil, fun _ hc => isDigit_of_mem_toDigits hc, digitsValue_toDigits n⟩

/-- No zero stands in front of other digits. -/
theorem toDigits_eq_cons_of_pos {n : Nat} (hpos : 0 < n) :
    ∃ first rest, Nat.toDigits 10 n = first :: rest ∧ first ≠ '0' := by
  induction n using Nat.strongRecOn with
  | ind n ih =>
      by_cases hless : n < 10
      · refine ⟨n.digitChar, [], Nat.toDigits_of_lt_base hless, ?_⟩
        have hall : ∀ n < 10, 0 < n → n.digitChar ≠ '0' := by decide
        exact hall n hless hpos
      · obtain ⟨first, rest, hdigits, hfirst⟩ := ih (n / 10) (by omega) (by omega)
        refine ⟨first, rest ++ [(n % 10).digitChar], ?_, hfirst⟩
        rw [Nat.toDigits_of_base_le (by decide) (by omega), hdigits, List.cons_append]

theorem toList_toString_ofNat (n : Nat) : (toString (n : Int)).toList = Nat.toDigits 10 n := by
  simp [Int.repr, Nat.repr_eq_ofList_toDigits]

theorem toList_toString_negSucc (n : Nat) :
    (toString (Int.negSucc n)).toList = '-' :: Nat.toDigits 10 (n + 1) := by
  simp [Int.repr, Nat.repr_eq_ofList_toDigits]

theorem exists_front_toDigits (n : Nat) :
    ∃ c digits, Nat.toDigits 10 n = c :: digits ∧ isDigit c = true := by
  cases hdigits : Nat.toDigits 10 n with
  | nil => exact absurd hdigits Nat.toDigits_ne_nil
  | cons c digits =>
      exact ⟨c, digits, rfl, isDigit_of_mem_toDigits (hdigits ▸ List.mem_cons_self)⟩

/-- A number ends where a blank follows. -/
theorem toDigits_append_blank_inj {m n : Nat} {first second : List Char}
    (heq : Nat.toDigits 10 m ++ ' ' :: first = Nat.toDigits 10 n ++ ' ' :: second) :
    m = n ∧ first = second := by
  have htake (n : Nat) (rest : List Char) :
      (Nat.toDigits 10 n ++ ' ' :: rest).takeWhile isDigit = Nat.toDigits 10 n := by
    have hblank : (' ' :: rest).takeWhile isDigit = [] := rfl
    rw [List.takeWhile_append_of_pos fun c hc => isDigit_of_mem_toDigits hc, hblank,
      List.append_nil]
  have hdigits : Nat.toDigits 10 m = Nat.toDigits 10 n := by
    rw [← htake m first, heq, htake]
  have hvalue := congrArg digitsValue hdigits
  rw [digitsValue_toDigits, digitsValue_toDigits] at hvalue
  subst hvalue
  exact ⟨rfl, (List.cons.inj (List.append_cancel_left heq)).2⟩

theorem toString_int_inj {first second : Int} (hsame : toString first = toString second) :
    first = second := by
  have hdigits : ∀ {m n : Nat}, Nat.toDigits 10 m = Nat.toDigits 10 n → m = n := by
    intro m n htoDigits
    rw [← digitsValue_toDigits m, htoDigits, digitsValue_toDigits]
  -- no digit is a minus sign
  have hsign : ∀ m n : Nat, Nat.toDigits 10 m ≠ '-' :: Nat.toDigits 10 (n + 1) := by
    intro m n htoDigits
    obtain ⟨c, digits, hfront, hdigit⟩ := exists_front_toDigits m
    obtain rfl := List.head_eq_of_cons_eq (hfront.symm.trans htoDigits)
    exact absurd hdigit (by decide)
  have hchars := congrArg String.toList hsame
  cases first with
  | ofNat m =>
      cases second with
      | ofNat n =>
          rw [Int.ofNat_eq_natCast, Int.ofNat_eq_natCast, toList_toString_ofNat,
            toList_toString_ofNat] at hchars
          rw [hdigits hchars]
      | negSucc n =>
          rw [Int.ofNat_eq_natCast, toList_toString_ofNat, toList_toString_negSucc] at hchars
          exact absurd hchars (hsign m n)
  | negSucc m =>
      cases second with
      | ofNat n =>
          rw [Int.ofNat_eq_natCast, toList_toString_ofNat, toList_toString_negSucc] at hchars
          exact absurd hchars.symm (hsign n m)
      | negSucc n =>
          rw [toList_toString_negSucc, toList_toString_negSucc] at hchars
          have hnumber := hdigits (List.tail_eq_of_cons_eq hchars)
          rw [Nat.succ_injective hnumber]

@[simp]
theorem length_paddedDigits (width value : Nat) : (paddedDigits width value).length = width := by
  induction width generalizing value with
  | zero => rfl
  | succ width ih => rw [paddedDigits, List.length_append, ih, List.length_singleton]

theorem isDigit_of_mem_paddedDigits {c : Char} (hc : c ∈ paddedDigits width value) :
    isDigit c = true := by
  induction width generalizing value with
  | zero => exact absurd hc List.not_mem_nil
  | succ width ih =>
      rcases List.mem_append.mp hc with hc | hc
      · exact ih hc
      · rw [List.mem_singleton.mp hc]
        exact isDigit_digitChar (Nat.mod_lt _ (by decide))

theorem digitsValue_paddedDigits (hfits : value < 10 ^ width) :
    digitsValue (paddedDigits width value) = value := by
  induction width generalizing value with
  | zero => exact (Nat.lt_one_iff.mp hfits).symm
  | succ width ih =>
      rw [paddedDigits, digitsValue_concat, digitValue_digitChar (Nat.mod_lt _ (by decide)),
        ih (by omega)]
      omega

theorem paddedDigits_ten_mul (width value : Nat) :
    paddedDigits (width + 1) (10 * value) = paddedDigits width value ++ ['0'] := by
  rw [paddedDigits, Nat.mul_div_cancel_left _ (by decide), Nat.mul_mod_right]
  rfl

theorem paddedDigits_digitsValue (hdigits : ∀ c ∈ digits, isDigit c = true) :
    paddedDigits digits.length (digitsValue digits) = digits := by
  induction digits using List.reverseRecOn with
  | nil => rfl
  | append_singleton digits c ih =>
      obtain ⟨hdigits, hc⟩ := List.forall_mem_append.mp hdigits
      have hdigit : isDigit c = true := hc c List.mem_cons_self
      have hless := digitValue_lt hdigit
      rw [List.length_append, List.length_singleton, paddedDigits, digitsValue_concat,
        Nat.mul_add_div (by decide), Nat.div_eq_of_lt hless, Nat.add_zero, ih hdigits,
        Nat.mul_add_mod, Nat.mod_eq_of_lt hless, digitChar_digitValue hdigit]

theorem Numeral.eq_paddedDigits (hnumeral : Numeral chars value) :
    chars = paddedDigits chars.length value := by
  obtain ⟨-, hdigits, rfl⟩ := numeral_iff.mp hnumeral
  exact (paddedDigits_digitsValue hdigits).symm

theorem numeral_paddedDigits (hwidth : 0 < width) (hfits : value < 10 ^ width) :
    Numeral (paddedDigits width value) value := by
  refine numeral_iff.mpr ⟨?_, fun _ hc => isDigit_of_mem_paddedDigits hc,
    digitsValue_paddedDigits hfits⟩
  exact List.ne_nil_of_length_pos (by simpa using hwidth)

end SubscriptionDesk.Text

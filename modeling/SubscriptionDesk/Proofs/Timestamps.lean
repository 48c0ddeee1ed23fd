import Mathlib.Algebra.Order.Field.Rat
import Mathlib.Data.List.DropRight
import Mathlib.Tactic.FieldSimp
import Mathlib.Tactic.Linarith
import Mathlib.Tactic.NormNum
import Mathlib.Tactic.Positivity
import SubscriptionDesk.Proofs.CalendarDays
import SubscriptionDesk.Proofs.DigitRows

/-!
# Timestamps

A timestamp is a date and a time of its day, written in the form that RFC 3339 has for UTC, with as
few digits behind the point as there can be. Each text of this form stands for one instant, and each
instant of the years from 0 to 9999 that has finitely many digits behind the point has one such
text. For an instant that is counted in milliseconds or in smaller parts of a second, this is the
text that is made of its count.
-/

namespace SubscriptionDesk

namespace Text

variable {digits other : List Char}

/-! ### Digits behind the point -/

def fractionValue (digits : List Char) : ℚ := digitsValue digits / 10 ^ digits.length

theorem fractionValue_nonneg (digits : List Char) : 0 ≤ fractionValue digits := by
  unfold fractionValue
  positivity

theorem fractionValue_lt_one (hdigits : ∀ c ∈ digits, isDigit c = true) :
    fractionValue digits < 1 := by
  have hless : (digitsValue digits : ℚ) < 10 ^ digits.length := mod_cast digitsValue_lt hdigits
  exact (div_lt_one (by positivity)).mpr hless

theorem fractionValue_append_zero (digits : List Char) :
    fractionValue (digits ++ ['0']) = fractionValue digits := by
  have hzero : digitValue '0' = 0 := rfl
  unfold fractionValue
  rw [digitsValue_concat, hzero, List.length_append, List.length_singleton, pow_succ]
  push_cast
  field_simp
  ring

def shortest (digits : List Char) : List Char := digits.rdropWhile (· == '0')

theorem fractionValue_shortest (digits : List Char) :
    fractionValue (shortest digits) = fractionValue digits := by
  unfold shortest
  induction digits using List.reverseRecOn with
  | nil => rfl
  | append_singleton digits c ih =>
      rw [List.rdropWhile_concat]
      split
      · rename_i hzero
        rw [ih, eq_of_beq hzero, fractionValue_append_zero]
      · rfl

theorem mem_of_mem_shortest {c : Char} (hc : c ∈ shortest digits) : c ∈ digits :=
  List.IsPrefix.mem hc (List.rdropWhile_prefix ..)

theorem getLast?_shortest (digits : List Char) : (shortest digits).getLast? ≠ some '0' := by
  intro hlast
  obtain ⟨hsome, hzero⟩ := List.mem_getLast?_eq_getLast hlast
  exact List.rdropWhile_last_not _ digits hsome (beq_iff_eq.mpr hzero.symm)

/-- Digits without a zero at the end are no more than any digits of the same worth. -/
theorem length_le_of_fractionValue_eq (hdigits : ∀ c ∈ digits, isDigit c = true)
    (hlast : digits.getLast? ≠ some '0') (hsame : fractionValue digits = fractionValue other) :
    digits.length ≤ other.length := by
  by_contra hlonger
  cases digits using List.reverseRecOn with
  | nil => exact hlonger (Nat.zero_le _)
  | append_singleton digits c =>
      obtain ⟨more, hmore⟩ : ∃ more, digits.length = other.length + more :=
        Nat.exists_eq_add_of_le (by simpa [Nat.lt_succ_iff] using hlonger)
      have hcross : digitsValue (digits ++ [c]) = 10 ^ (more + 1) * digitsValue other := by
        unfold fractionValue at hsame
        rw [List.length_append, List.length_singleton, hmore, Nat.add_assoc, pow_add] at hsame
        field_simp at hsame
        exact_mod_cast hsame
      rw [digitsValue_concat, pow_succ', Nat.mul_assoc] at hcross
      have hdigit := hdigits c (by simp)
      have hzero : digitValue c = 0 := by
        have hless := digitValue_lt hdigit
        omega
      have hc := digitChar_digitValue hdigit
      rw [hzero] at hc
      exact hlast (by simp [← hc])

theorem fractionValue_inj (hdigits : ∀ c ∈ digits, isDigit c = true)
    (hother : ∀ c ∈ other, isDigit c = true) (hlast : digits.getLast? ≠ some '0')
    (hotherLast : other.getLast? ≠ some '0') (hsame : fractionValue digits = fractionValue other) :
    digits = other := by
  have hlength : digits.length = other.length :=
    le_antisymm (length_le_of_fractionValue_eq hdigits hlast hsame)
      (length_le_of_fractionValue_eq hother hotherLast hsame.symm)
  have hvalue : digitsValue digits = digitsValue other := by
    unfold fractionValue at hsame
    rw [hlength] at hsame
    field_simp at hsame
    exact_mod_cast hsame
  rw [← paddedDigits_digitsValue hdigits, ← paddedDigits_digitsValue hother, hlength, hvalue]

theorem shortest_eq_nil_iff (hdigits : ∀ c ∈ digits, isDigit c = true) :
    shortest digits = [] ↔ digitsValue digits = 0 := by
  have hzero : digitsValue digits = 0 ↔ fractionValue (shortest digits) = fractionValue [] := by
    rw [fractionValue_shortest]
    simp [fractionValue, digitsValue]
  rw [hzero]
  constructor
  · exact congrArg fractionValue
  · have hnone : ∀ c ∈ ([] : List Char), isDigit c = true := by simp
    have hlast : ([] : List Char).getLast? ≠ some '0' := by simp
    exact fractionValue_inj (fun _ hc => hdigits _ (mem_of_mem_shortest hc)) hnone
      (getLast?_shortest digits) hlast

end Text

open Text Instant CalendarDay

/-! ### Timestamps -/

@[ext]
structure Part where
  mark : String
  width : Nat
  value : Nat

/-- Whether a text is made of some parts in a row. -/
inductive Laid : List Part → List Char → Prop where
  | nil : Laid [] []
  | cons {part : Part} {rest : List Part} {row chars : List Char} :
      row.length = part.width → Numeral row part.value → Laid rest chars →
      Laid (part :: rest) (part.mark.toList ++ (row ++ chars))

namespace Laid

variable {parts others : List Part} {chars other tail otherTail : List Char}

theorem eq (hlaid : Laid parts chars) :
    chars = parts.flatMap fun part => part.mark.toList ++ paddedDigits part.width part.value := by
  induction hlaid with
  | nil => rfl
  | @cons part rest row chars hwidth hnumeral _ ih =>
      rw [List.flatMap_cons, ← ih, hnumeral.eq_paddedDigits, hwidth, List.append_assoc]

theorem of_fits (hfits : ∀ part ∈ parts, 0 < part.width ∧ part.value < 10 ^ part.width) :
    Laid parts
      (parts.flatMap fun part => part.mark.toList ++ paddedDigits part.width part.value) := by
  induction parts with
  | nil => exact .nil
  | cons part rest ih =>
      obtain ⟨⟨hwidth, hvalue⟩, hrest⟩ := List.forall_mem_cons.mp hfits
      rw [List.flatMap_cons, List.append_assoc]
      exact .cons (length_paddedDigits _ _) (numeral_paddedDigits hwidth hvalue) (ih hrest)

/-- Parts of the same form can be read back, whatever comes after them. -/
theorem inj (hlaid : Laid parts chars) (hother : Laid others other)
    (hform : parts.map (fun part => (part.mark, part.width)) =
      others.map fun part => (part.mark, part.width))
    (hsame : chars ++ tail = other ++ otherTail) : parts = others ∧ tail = otherTail := by
  induction hlaid generalizing others other with
  | nil =>
      obtain rfl := List.map_eq_nil_iff.mp hform.symm
      cases hother with
      | nil => exact ⟨rfl, hsame⟩
  | @cons part rest row chars hwidth hnumeral hrest ih =>
      cases hother with
      | nil => contradiction
      | @cons otherPart otherRest otherRow otherChars hotherWidth hotherNumeral hotherRest =>
          obtain ⟨hhead, hforms⟩ := List.cons.inj hform
          obtain ⟨hmark, hwidths⟩ := Prod.mk.inj hhead
          simp only [hmark, List.append_assoc, List.append_cancel_left_eq] at hsame
          obtain ⟨rfl, hchars⟩ := List.append_inj hsame (by omega)
          obtain ⟨rfl, htail⟩ := ih hotherRest hforms hchars
          have hvalue : part.value = otherPart.value :=
            hnumeral.value.symm.trans hotherNumeral.value
          exact ⟨congrArg (· :: rest) (Part.ext hmark hwidths hvalue), htail⟩

end Laid

/-- Whether a year can be written with four digits and no sign. -/
def CalendarDay.FourDigitYear (date : CalendarDay) : Prop := 0 ≤ date.year ∧ date.year ≤ 9999

@[ext]
structure Stamp where
  date : CalendarDay
  hour : Nat
  minute : Nat
  second : Nat
  fraction : List Char

namespace Stamp

variable {stamp other : Stamp} {written : String}

/-- Whether there is such a date and time, and a timestamp for it. There are no leap seconds, and a
fraction does not end with a zero. -/
structure Proper (stamp : Stamp) : Prop where
  date : stamp.date.InCalendar
  year : stamp.date.FourDigitYear
  hour : stamp.hour < 24
  minute : stamp.minute < 60
  second : stamp.second < 60
  digits : ∀ c ∈ stamp.fraction, isDigit c = true
  last : stamp.fraction.getLast? ≠ some '0'

def wholeSeconds (stamp : Stamp) : Int :=
  86400 * stamp.date.epochDay + (3600 * stamp.hour + 60 * stamp.minute + stamp.second : Nat)

def seconds (stamp : Stamp) : ℚ := stamp.wholeSeconds + fractionValue stamp.fraction

/-- The stamp of an instant that is counted in parts of a second with so many places. -/
def ofTicks (places : Nat) (ticks : Int) : Stamp :=
  let whole := ticks / 10 ^ places
  let within := (whole % 86400).toNat
  { date := .ofEpochDay (whole / 86400)
    hour := within / 3600
    minute := within / 60 % 60
    second := within % 60
    fraction := shortest (paddedDigits places (ticks % 10 ^ places).toNat) }

def parts (stamp : Stamp) : List Part :=
  [⟨"", 4, stamp.date.year.toNat⟩, ⟨"-", 2, stamp.date.month⟩, ⟨"-", 2, stamp.date.day⟩,
    ⟨"T", 2, stamp.hour⟩, ⟨":", 2, stamp.minute⟩, ⟨":", 2, stamp.second⟩]

/-- A fraction stands after a point, and where there is none, there is no point. -/
def ending (stamp : Stamp) : List Char :=
  (if stamp.fraction = [] then [] else '.' :: stamp.fraction) ++ ['Z']

/-- Whether a text is the one that RFC 3339 has for a date and time in UTC. -/
def Written (stamp : Stamp) (text : String) : Prop :=
  ∃ front, Laid stamp.parts front ∧ text.toList = front ++ stamp.ending

theorem ending_inj (hsame : stamp.ending = other.ending) : stamp.fraction = other.fraction := by
  have hpoint := List.append_cancel_right hsame
  by_cases hnone : stamp.fraction = [] <;> by_cases hother : other.fraction = [] <;>
    simp_all

def text (stamp : Stamp) : String :=
  let fraction := if stamp.fraction = [] then "" else "." ++ String.ofList stamp.fraction
  padded 4 stamp.date.year.toNat ++ "-" ++ padded 2 stamp.date.month ++ "-" ++
    padded 2 stamp.date.day ++ "T" ++ padded 2 stamp.hour ++ ":" ++ padded 2 stamp.minute ++ ":" ++
    padded 2 stamp.second ++ fraction ++ "Z"

/-- A text is written for one date and time only. -/
theorem Written.stamp_eq (hwritten : stamp.Written written) (hother : other.Written written)
    (hproper : stamp.Proper) (hproper' : other.Proper) : stamp = other := by
  obtain ⟨front, hlaid, htext⟩ := hwritten
  obtain ⟨otherFront, hotherLaid, hotherText⟩ := hother
  obtain ⟨hparts, hending⟩ := hlaid.inj hotherLaid rfl (htext.symm.trans hotherText)
  have hfraction := ending_inj hending
  simp only [parts, List.cons.injEq, Part.mk.injEq, true_and, and_true] at hparts
  obtain ⟨hyears, hmonth, hday, hhour, hminute, hsecond⟩ := hparts
  have hyear : stamp.date.year = other.date.year := by
    have hnonneg := hproper.year.1
    have hotherNonneg := hproper'.year.1
    omega
  exact Stamp.ext (CalendarDay.ext hyear hmonth hday) hhour hminute hsecond hfraction

theorem Written.text_eq {otherText : String} (hwritten : stamp.Written written)
    (hother : stamp.Written otherText) : written = otherText := by
  obtain ⟨front, hlaid, htext⟩ := hwritten
  obtain ⟨otherFront, hotherLaid, hotherText⟩ := hother
  rw [← String.toList_inj, htext, hotherText, hlaid.eq, hotherLaid.eq]

theorem Proper.floor_seconds (hproper : stamp.Proper) :
    (stamp.wholeSeconds : ℚ) ≤ stamp.seconds ∧ stamp.seconds < stamp.wholeSeconds + 1 := by
  have hnonneg := fractionValue_nonneg stamp.fraction
  have hless := fractionValue_lt_one hproper.digits
  unfold seconds
  constructor <;> linarith

theorem Proper.wholeSeconds_eq (hproper : stamp.Proper) (hother : other.Proper)
    (hsame : stamp.seconds = other.seconds) : stamp.wholeSeconds = other.wholeSeconds := by
  obtain ⟨hle, hless⟩ := hproper.floor_seconds
  obtain ⟨hle', hless'⟩ := hother.floor_seconds
  have hup : (stamp.wholeSeconds : ℚ) < other.wholeSeconds + 1 := by linarith
  have hdown : (other.wholeSeconds : ℚ) < stamp.wholeSeconds + 1 := by linarith
  norm_cast at hup hdown
  omega

/-- No two of them are the same instant. -/
theorem Proper.eq_of_seconds_eq (hproper : stamp.Proper) (hother : other.Proper)
    (hsame : stamp.seconds = other.seconds) : stamp = other := by
  have hwhole := hproper.wholeSeconds_eq hother hsame
  have hfraction : stamp.fraction = other.fraction := by
    refine fractionValue_inj hproper.digits hother.digits hproper.last hother.last ?_
    unfold seconds at hsame
    rw [hwhole] at hsame
    exact add_left_cancel hsame
  have hhour := hproper.hour
  have hminute := hproper.minute
  have hsecond := hproper.second
  have hotherHour := hother.hour
  have hotherMinute := hother.minute
  have hotherSecond := hother.second
  unfold wholeSeconds at hwhole
  have hdate : stamp.date = other.date :=
    hproper.date.eq_of_epochDay_eq hother.date (by omega)
  rw [hdate] at hwhole
  exact Stamp.ext hdate (by omega) (by omega) (by omega) hfraction

theorem Proper.written_text (hproper : stamp.Proper) : stamp.Written stamp.text := by
  have hyear := hproper.year.2
  have hmonth := hproper.date.month_le
  have hday : stamp.date.day ≤ 31 := hproper.date.day_le.trans (monthLength_le _ _)
  have hhour := hproper.hour
  have hminute := hproper.minute
  have hsecond := hproper.second
  refine ⟨_, Laid.of_fits ?_, ?_⟩
  · simp [parts]
    omega
  · by_cases hnone : stamp.fraction = [] <;> simp [text, parts, ending, padded, hnone]

/-! ### The stamp of an instant -/

section Ticks

variable {places : Nat} {ticks : Int}

theorem wholeSeconds_ofTicks (places : Nat) (ticks : Int) :
    (ofTicks places ticks).wholeSeconds = ticks / 10 ^ places := by
  have hdate : (ofTicks places ticks).date.epochDay = ticks / 10 ^ places / 86400 :=
    (inCalendar_ofEpochDay _).2
  rw [wholeSeconds, hdate]
  simp only [ofTicks]
  generalize ticks / 10 ^ places = whole
  omega

theorem seconds_ofTicks (places : Nat) (ticks : Int) :
    (ofTicks places ticks).seconds = ticks / 10 ^ places := by
  have hpos : (0 : Int) < 10 ^ places := by positivity
  obtain ⟨part, hpart⟩ : ∃ part : Nat, ticks % 10 ^ places = part :=
    Int.eq_ofNat_of_zero_le (Int.emod_nonneg _ hpos.ne')
  have hless : part < 10 ^ places := by
    have hmod := Int.emod_lt_of_pos ticks hpos
    rw [hpart] at hmod
    exact_mod_cast hmod
  have hfraction : fractionValue (ofTicks places ticks).fraction = part / 10 ^ places := by
    change fractionValue (shortest (paddedDigits places _)) = _
    rw [hpart, Int.toNat_natCast, fractionValue_shortest, fractionValue,
      digitsValue_paddedDigits hless, length_paddedDigits]
  have hsplit : (ticks : ℚ) = 10 ^ places * (ticks / 10 ^ places : Int) + part := by
    exact_mod_cast hpart ▸ (Int.mul_ediv_add_emod ticks (10 ^ places)).symm
  calc (ofTicks places ticks).seconds
    _ = (ticks / 10 ^ places : Int) + part / 10 ^ places := by
        rw [seconds, wholeSeconds_ofTicks, hfraction]
    _ = ticks / 10 ^ places := by
        rw [hsplit]
        field_simp

theorem proper_ofTicks (hyear : (ofTicks places ticks).date.FourDigitYear) :
    (ofTicks places ticks).Proper where
  date := (inCalendar_ofEpochDay _).1
  year := hyear
  hour := by
    change (ticks / 10 ^ places % 86400).toNat / 3600 < 24
    omega
  minute := Nat.mod_lt _ (by decide)
  second := Nat.mod_lt _ (by decide)
  digits _ hc := isDigit_of_mem_paddedDigits (mem_of_mem_shortest hc)
  last := getLast?_shortest _

/-- An instant has the same stamp when it is counted in parts of a tenth. -/
theorem ofTicks_succ (places : Nat) (ticks : Int) :
    ofTicks (places + 1) (10 * ticks) = ofTicks places ticks := by
  have hwhole : 10 * ticks / 10 ^ (places + 1) = ticks / 10 ^ places := by
    rw [pow_succ', Int.mul_ediv_mul_of_pos _ _ (by decide)]
  have hpart : (10 * ticks % 10 ^ (places + 1)).toNat = 10 * (ticks % 10 ^ places).toNat := by
    rw [pow_succ', Int.mul_emod_mul_of_pos _ _ (by decide)]
    omega
  have hfraction : shortest (paddedDigits (places + 1) (10 * ticks % 10 ^ (places + 1)).toNat) =
      shortest (paddedDigits places (ticks % 10 ^ places).toNat) := by
    rw [hpart, paddedDigits_ten_mul]
    exact List.rdropWhile_concat_pos _ _ _ rfl
  unfold ofTicks
  rw [hwhole, hfraction]

end Ticks

end Stamp

/-- Whether a text is the RFC 3339 form, in UTC, of the instant so many seconds after the start of
1970. -/
def Denotes (text : String) (seconds : ℚ) : Prop :=
  ∃ stamp : Stamp, stamp.Proper ∧ stamp.Written text ∧ stamp.seconds = seconds

theorem Denotes.seconds_eq {text : String} {seconds other : ℚ} (hdenotes : Denotes text seconds)
    (hother : Denotes text other) : seconds = other := by
  obtain ⟨stamp, hproper, hwritten, rfl⟩ := hdenotes
  obtain ⟨otherStamp, hotherProper, hotherWritten, rfl⟩ := hother
  rw [hwritten.stamp_eq hotherWritten hproper hotherProper]

theorem Denotes.text_eq {text other : String} {seconds : ℚ} (hdenotes : Denotes text seconds)
    (hother : Denotes other seconds) : text = other := by
  obtain ⟨stamp, hproper, hwritten, hseconds⟩ := hdenotes
  obtain ⟨otherStamp, hotherProper, hotherWritten, hotherSeconds⟩ := hother
  obtain rfl := hproper.eq_of_seconds_eq hotherProper (hseconds.trans hotherSeconds.symm)
  exact hwritten.text_eq hotherWritten

end SubscriptionDesk

import Mathlib.Algebra.BigOperators.Intervals
import Mathlib.Algebra.Order.BigOperators.Group.Finset
import Mathlib.Tactic.IntervalCases
import SubscriptionDesk.Instant

/-!
# Days of the calendar

The years of the Gregorian calendar are counted on without end in both directions, all by the same
rule of leap years. Here a date is given the number of its day by adding up the lengths of the years
and months before it, and this is undone by the computation that finds the date of a day. The
computation counts its years from March, so that the leap day comes last and all months but the last
have the same lengths in every year.
-/

namespace SubscriptionDesk.CalendarDay

attribute [ext] CalendarDay

variable {year : Int} {month : Nat} {date other : CalendarDay}

/-- Every fourth year is a leap year, but of the full centuries only every fourth. -/
def IsLeap (year : Int) : Prop := 4 ∣ year ∧ (100 ∣ year → 400 ∣ year)

instance : DecidablePred IsLeap := fun year =>
  inferInstanceAs (Decidable (4 ∣ year ∧ (100 ∣ year → 400 ∣ year)))

def leapDays (year : Int) : Nat := if IsLeap year then 1 else 0

def yearLength (year : Int) : Nat := 365 + leapDays year

def monthLength (year : Int) : Nat → Nat
  | 2 => 28 + leapDays year
  | 4 | 6 | 9 | 11 => 30
  | _ => 31

structure InCalendar (date : CalendarDay) : Prop where
  month_pos : 1 ≤ date.month
  month_le : date.month ≤ 12
  day_pos : 1 ≤ date.day
  day_le : date.day ≤ monthLength date.year date.month

/-- The days from the start of 1970 to the start of a year. For an earlier year, the years from 1969
back to it are taken away. -/
def daysToYear (year : Int) : Int :=
  (∑ past ∈ Finset.range (year - 1970).toNat, (yearLength (1970 + past) : Int)) -
    ∑ back ∈ Finset.range (1970 - year).toNat, (yearLength (1969 - back) : Int)

def daysToMonth (year : Int) (month : Nat) : Nat :=
  ∑ past ∈ Finset.Ico 1 month, monthLength year past

def epochDay (date : CalendarDay) : Int :=
  daysToYear date.year + daysToMonth date.year date.month + (date.day - 1)

/-! ### Years and months in a row -/

theorem leapDays_cases (year : Int) :
    4 ∣ year ∧ (100 ∣ year → 400 ∣ year) ∧ leapDays year = 1 ∨
      ¬(4 ∣ year ∧ (100 ∣ year → 400 ∣ year)) ∧ leapDays year = 0 := by
  unfold leapDays
  by_cases hleap : IsLeap year
  · exact .inl ⟨hleap.1, hleap.2, if_pos hleap⟩
  · exact .inr ⟨hleap, if_neg hleap⟩

theorem leapDays_le (year : Int) : leapDays year ≤ 1 := by
  have hleap := leapDays_cases year
  omega

theorem monthLength_le (year : Int) (month : Nat) : monthLength year month ≤ 31 := by
  have hleap := leapDays_le year
  unfold monthLength
  split <;> omega

theorem daysToYear_succ (year : Int) :
    daysToYear (year + 1) = daysToYear year + yearLength year := by
  unfold daysToYear
  rcases Int.lt_or_le year 1970 with hbefore | hafter
  · obtain ⟨back, rfl⟩ : ∃ back : Nat, year = 1969 - back := ⟨(1969 - year).toNat, by omega⟩
    have hback : (1970 - (1969 - back : Int)).toNat = back + 1 := by omega
    have hnext : (1970 - (1969 - back + 1 : Int)).toNat = back := by omega
    have hpast : (1969 - back + 1 - 1970 : Int).toNat = (1969 - back - 1970 : Int).toNat := by omega
    rw [hback, hnext, hpast, Finset.sum_range_succ]
    omega
  · obtain ⟨past, rfl⟩ : ∃ past : Nat, year = 1970 + past := ⟨(year - 1970).toNat, by omega⟩
    have hpast : (1970 + past - 1970 : Int).toNat = past := by omega
    have hnext : (1970 + past + 1 - 1970 : Int).toNat = past + 1 := by omega
    have hback : (1970 - (1970 + past + 1) : Int).toNat = (1970 - (1970 + past) : Int).toNat := by
      omega
    rw [hpast, hnext, hback, Finset.sum_range_succ]
    omega

/-- The leap days before a year can be counted without going through the years. -/
theorem daysToYear_eq (year : Int) :
    daysToYear year =
      365 * year + (year + 3) / 4 - (year + 99) / 100 + (year + 399) / 400 - 719528 := by
  induction year using Int.inductionOn' (b := 1970) with
  | zero => decide
  | succ year _ ih =>
      have hleap := leapDays_cases year
      rw [daysToYear_succ, ih, yearLength]
      omega
  | pred year _ ih =>
      obtain ⟨before, rfl⟩ : ∃ before, year = before + 1 := ⟨year - 1, by omega⟩
      have hleap := leapDays_cases before
      rw [daysToYear_succ, yearLength] at ih
      rw [Int.add_sub_cancel]
      omega

theorem daysToYear_mono {later : Int} (hle : year ≤ later) :
    daysToYear year ≤ daysToYear later := by
  rw [daysToYear_eq, daysToYear_eq]
  omega

theorem daysToMonth_succ (hmonth : 1 ≤ month) :
    daysToMonth year (month + 1) = daysToMonth year month + monthLength year month :=
  Finset.sum_Ico_succ_top hmonth _

theorem daysToMonth_mono {later : Nat} (hle : month ≤ later) :
    daysToMonth year month ≤ daysToMonth year later :=
  Finset.sum_le_sum_of_subset (Finset.Ico_subset_Ico_right hle)

theorem daysToMonth_year (year : Int) : daysToMonth year 13 = yearLength year := by
  simp [daysToMonth, Finset.sum_Ico_succ_top, monthLength, yearLength]
  omega

/-! ### The day of a date -/

theorem InCalendar.daysToYear_le (hdate : date.InCalendar) :
    daysToYear date.year ≤ date.epochDay := by
  have hday := hdate.day_pos
  unfold epochDay
  omega

theorem InCalendar.dayOfYear_le (hdate : date.InCalendar) :
    daysToMonth date.year date.month + date.day ≤ daysToMonth date.year (date.month + 1) := by
  rw [daysToMonth_succ hdate.month_pos]
  exact Nat.add_le_add_left hdate.day_le _

theorem InCalendar.lt_daysToYear (hdate : date.InCalendar) :
    date.epochDay < daysToYear (date.year + 1) := by
  have hmonth := hdate.dayOfYear_le
  have hyear : daysToMonth date.year (date.month + 1) ≤ daysToMonth date.year 13 :=
    daysToMonth_mono (Nat.succ_le_succ hdate.month_le)
  rw [daysToMonth_year] at hyear
  rw [daysToYear_succ, epochDay]
  omega

theorem InCalendar.le_year_iff (hdate : date.InCalendar) :
    year ≤ date.year ↔ daysToYear year ≤ date.epochDay := by
  constructor
  · exact fun hle => (daysToYear_mono hle).trans hdate.daysToYear_le
  · intro hle
    by_contra hlater
    have hnext : daysToYear (date.year + 1) ≤ daysToYear year := daysToYear_mono (by omega)
    have hday := hdate.lt_daysToYear
    omega

theorem InCalendar.le_month (hdate : date.InCalendar) (hother : other.InCalendar)
    (hyear : date.year = other.year)
    (hday : daysToMonth date.year date.month + date.day ≤
      daysToMonth other.year other.month + other.day) :
    date.month ≤ other.month := by
  by_contra hlater
  have hnext : daysToMonth other.year (other.month + 1) ≤ daysToMonth other.year date.month :=
    daysToMonth_mono (by omega)
  have hend := hother.dayOfYear_le
  have hpos := hdate.day_pos
  rw [hyear] at hday
  omega

/-- No two dates are the same day. -/
theorem InCalendar.eq_of_epochDay_eq (hdate : date.InCalendar) (hother : other.InCalendar)
    (hsame : date.epochDay = other.epochDay) : date = other := by
  have hyear : date.year = other.year :=
    le_antisymm (hother.le_year_iff.mpr (hsame ▸ hdate.daysToYear_le))
      (hdate.le_year_iff.mpr (hsame ▸ hother.daysToYear_le))
  have hdays : daysToMonth date.year date.month + date.day =
      daysToMonth other.year other.month + other.day := by
    unfold epochDay at hsame
    rw [hyear] at hsame ⊢
    omega
  have hmonth : date.month = other.month :=
    le_antisymm (hdate.le_month hother hyear hdays.le)
      (hother.le_month hdate hyear.symm hdays.ge)
  have hday : date.day = other.day := by
    rw [hyear, hmonth] at hdays
    exact Nat.add_left_cancel hdays
  exact CalendarDay.ext hyear hmonth hday

/-! ### Years that begin in March -/

def marchDays (year : Int) : Int := 365 * year + year / 4 - year / 100 + year / 400

def daysFromMarch (month : Nat) : Nat := (153 * month + 2) / 5

def ofMarch (year : Int) (month day : Nat) : CalendarDay :=
  if month < 10 then ⟨year, month + 3, day⟩ else ⟨year + 1, month - 9, day⟩

@[simp]
theorem day_ofMarch (year : Int) (month day : Nat) : (ofMarch year month day).day = day := by
  unfold ofMarch
  split <;> rfl

theorem month_ofMarch {day : Nat} (hmonth : month < 12) :
    1 ≤ (ofMarch year month day).month ∧ (ofMarch year month day).month ≤ 12 := by
  unfold ofMarch
  split <;> dsimp only <;> omega

theorem marchDays_succ (year : Int) :
    marchDays (year + 1) = marchDays year + 365 + leapDays (year + 1) := by
  have hleap := leapDays_cases (year + 1)
  unfold marchDays
  omega

/-- March comes after fifty-nine days, or after sixty. -/
theorem daysToYear_eq_marchDays (year : Int) :
    daysToYear year + 59 + leapDays year = marchDays year - epochOffset := by
  have hleap := leapDays_cases year
  rw [daysToYear_eq, marchDays, epochOffset]
  omega

/-- Only the last month depends on the year. -/
theorem daysFromMarch_succ {day : Nat} (hmonth : month < 11) :
    daysFromMarch (month + 1) = daysFromMarch month +
      monthLength (ofMarch year month day).year (ofMarch year month day).month := by
  interval_cases month <;> rfl

theorem daysToMonth_march (hmonth : month < 10) :
    daysToMonth year (month + 3) = 59 + leapDays year + daysFromMarch month := by
  induction month with
  | zero =>
      rw [daysToMonth_succ (by decide), daysToMonth_succ (by decide)]
      change 0 + 31 + (28 + leapDays year) = 59 + leapDays year + 0
      omega
  | succ month ih =>
      have hsmall : month < 10 := by omega
      have hlength := @daysFromMarch_succ year month 1 (by omega)
      simp only [ofMarch, if_pos hsmall] at hlength
      rw [Nat.add_right_comm, daysToMonth_succ (by omega), ih hsmall, hlength]
      omega

theorem epochDay_ofMarch {day : Nat} (hmonth : month < 12) :
    (ofMarch year month day).epochDay =
      marchDays year - epochOffset + daysFromMarch month + (day - 1) := by
  have hmarch := daysToYear_eq_marchDays year
  unfold ofMarch epochDay
  split
  · rename_i hsmall
    dsimp only
    rw [daysToMonth_march hsmall]
    omega
  · -- two months are left, which begin the next year
    have hnext := daysToYear_succ year
    unfold yearLength at hnext
    dsimp only
    interval_cases month <;> simp [daysToMonth, monthLength, daysFromMarch] <;> omega

theorem inCalendar_ofMarch {day : Nat} (hmonth : month < 12) (hpos : 1 ≤ day)
    (hmonthEnd : month < 11 → daysFromMarch month + day ≤ daysFromMarch (month + 1))
    (hyearEnd : daysFromMarch month + day ≤ 365 + leapDays (year + 1)) :
    (ofMarch year month day).InCalendar := by
  obtain ⟨hfirst, hlast⟩ := @month_ofMarch year month day hmonth
  refine ⟨hfirst, hlast, by rwa [day_ofMarch], ?_⟩
  rw [day_ofMarch]
  rcases Nat.lt_or_ge month 11 with hless | hlast
  · have hend := hmonthEnd hless
    rw [@daysFromMarch_succ year month day hless] at hend
    exact Nat.le_of_add_le_add_left hend
  · obtain rfl : month = 11 := by omega
    have hdays : 337 + day ≤ 365 + leapDays (year + 1) := hyearEnd
    change day ≤ 28 + leapDays (year + 1)
    omega

/-! ### The date of a day -/

/-- An era has as many days as four hundred years of it. -/
theorem marchDays_era (era year : Int) :
    marchDays (year + era * 400) = marchDays year + daysPerEra * era := by
  unfold marchDays daysPerEra
  omega

theorem exists_year {years : Nat} {days : Int} (hpos : 0 ≤ days) (hless : days < marchDays years) :
    ∃ year : Nat, year < years ∧ marchDays year ≤ days ∧ days < marchDays (year + 1) := by
  induction years with
  | zero => exact absurd hless (not_lt.mpr hpos)
  | succ years ih =>
      rcases Int.lt_or_le days (marchDays years) with hbefore | hafter
      · obtain ⟨year, hyear, hdays⟩ := ih hbefore
        exact ⟨year, hyear.trans (Nat.lt_succ_self years), hdays⟩
      · exact ⟨years, Nat.lt_succ_self years, hafter, hless⟩

/-- The corrections take away the leap days that have gone by, so that years of 365 days remain. -/
theorem yearOfEra_of_parts {century fours year day : Nat} (hcentury : century < 4)
    (hfours : fours < 25) (hyear : year < 4)
    (hday : day < 365 ∨ day = 365 ∧ year = 3 ∧ (fours = 24 → century = 3)) {dayOfEra : Nat}
    (hera : dayOfEra = 36524 * century + 1461 * fours + 365 * year + day) :
    (dayOfEra - dayOfEra / 1460 + dayOfEra / 36524 - dayOfEra / 146096) / 365 =
      100 * century + 4 * fours + year := by
  -- four years are one day longer than is divided by, so the next four are counted early
  obtain ⟨early, hearly, hquarter⟩ : ∃ early, (early = 0 ∧ day < 365 ∨ early = 1 ∧ 0 < day) ∧
      dayOfEra / 1460 = 25 * century + fours + early := by
    rcases Nat.lt_or_ge (24 * century + fours + 365 * year + day) 1460 with hless | hmore
    · exact ⟨0, by omega, by omega⟩
    · exact ⟨1, by omega, by omega⟩
  have hwhole : dayOfEra / 36524 = century + dayOfEra / 146096 := by
    rcases Nat.lt_or_ge dayOfEra 146096 with hless | hlast
    · have hrest : 1461 * fours + 365 * year + day < 36524 := by
        clear hearly hquarter
        by_cases hfull : fours = 24 <;> omega
      omega
    · obtain rfl : dayOfEra = 146096 := by omega
      omega
  have hyears : dayOfEra - dayOfEra / 1460 + dayOfEra / 36524 - dayOfEra / 146096 =
      365 * (100 * century + 4 * fours + year) + (day - early) := by
    rw [hquarter, hwhole]
    clear hquarter hwhole
    omega
  rw [hyears]
  omega

theorem yearOfEra_eq {dayOfEra yearOfEra : Nat} (hyear : yearOfEra < 400)
    (hstart : marchDays yearOfEra ≤ dayOfEra) (hend : dayOfEra < marchDays (yearOfEra + 1)) :
    (dayOfEra - dayOfEra / 1460 + dayOfEra / 36524 - dayOfEra / 146096) / 365 = yearOfEra := by
  obtain ⟨century, fours, year, hcentury, hfours, hrest, rfl⟩ : ∃ century fours year,
      century < 4 ∧ fours < 25 ∧ year < 4 ∧ yearOfEra = 100 * century + 4 * fours + year :=
    ⟨yearOfEra / 100, yearOfEra % 100 / 4, yearOfEra % 4, by omega, by omega, by omega, by omega⟩
  have hbefore : marchDays ↑(100 * century + 4 * fours + year) =
      36524 * century + 1461 * fours + 365 * year := by
    unfold marchDays
    omega
  have hlength := marchDays_succ ↑(100 * century + 4 * fours + year)
  have hleap := leapDays_cases (↑(100 * century + 4 * fours + year) + 1)
  obtain ⟨day, rfl⟩ : ∃ day, dayOfEra = 36524 * century + 1461 * fours + 365 * year + day :=
    ⟨dayOfEra - (36524 * century + 1461 * fours + 365 * year), by omega⟩
  have hday : day < 365 ∨ day = 365 ∧ year = 3 ∧ (fours = 24 → century = 3) := by
    rw [hlength, hbefore] at hend
    omega
  exact yearOfEra_of_parts hcentury hfours hrest hday rfl

theorem exists_ofEpochDay_eq (epochDay : Int) :
    ∃ (year : Int) (dayOfYear : Nat), epochDay + epochOffset = marchDays year + dayOfYear ∧
      dayOfYear < 365 + leapDays (year + 1) ∧
      ofEpochDay epochDay = ofMarch year ((5 * dayOfYear + 2) / 153)
        (dayOfYear - daysFromMarch ((5 * dayOfYear + 2) / 153) + 1) := by
  generalize hera : (epochDay + epochOffset) / daysPerEra = era
  generalize hday : ((epochDay + epochOffset) % daysPerEra).toNat = dayOfEra
  have hdays : epochDay + epochOffset = daysPerEra * era + dayOfEra ∧ dayOfEra < 146097 := by
    unfold daysPerEra at *
    omega
  obtain ⟨yearOfEra, hyear, hstart, hend⟩ : ∃ yearOfEra : Nat, yearOfEra < 400 ∧
      marchDays yearOfEra ≤ dayOfEra ∧ dayOfEra < marchDays (yearOfEra + 1) :=
    exists_year (by omega) (by simpa [marchDays] using hdays.2)
  have hbefore : marchDays yearOfEra =
      (365 * yearOfEra + yearOfEra / 4 - yearOfEra / 100 : Nat) := by
    unfold marchDays
    omega
  generalize hdayOfYear :
    dayOfEra - (365 * yearOfEra + yearOfEra / 4 - yearOfEra / 100) = dayOfYear
  have hless : dayOfYear < 365 + leapDays (yearOfEra + era * 400 + 1) := by
    have hlength := marchDays_succ (yearOfEra + era * 400)
    have hshift := marchDays_era era (yearOfEra + 1)
    rw [Int.add_right_comm] at hshift
    rw [hshift, marchDays_era] at hlength
    omega
  refine ⟨yearOfEra + era * 400, dayOfYear, ?_, hless, ?_⟩
  · rw [marchDays_era]
    omega
  · have hleap := leapDays_le (yearOfEra + era * 400 + 1)
    simp only [ofEpochDay, hera, hday, yearOfEra_eq hyear hstart hend, hdayOfYear]
    unfold ofMarch daysFromMarch
    by_cases hsmall : (5 * dayOfYear + 2) / 153 < 10
    · rw [if_pos hsmall, if_pos hsmall, if_neg (by omega)]
    · rw [if_neg hsmall, if_neg hsmall, if_pos (by omega)]

/-- The date of a day is in the calendar, and the day is found again from it. -/
theorem inCalendar_ofEpochDay (epochDay : Int) :
    (ofEpochDay epochDay).InCalendar ∧ (ofEpochDay epochDay).epochDay = epochDay := by
  obtain ⟨year, dayOfYear, hdays, hless, heq⟩ := exists_ofEpochDay_eq epochDay
  have hleap := leapDays_le (year + 1)
  have hmonth : (5 * dayOfYear + 2) / 153 < 12 := by omega
  have hfrom : daysFromMarch ((5 * dayOfYear + 2) / 153) ≤ dayOfYear := by
    unfold daysFromMarch
    omega
  rw [heq]
  refine ⟨inCalendar_ofMarch hmonth (Nat.le_add_left 1 _) (fun _ => ?_) (by omega), ?_⟩
  · have hend : dayOfYear < daysFromMarch ((5 * dayOfYear + 2) / 153 + 1) := by
      unfold daysFromMarch
      omega
    omega
  · rw [epochDay_ofMarch hmonth]
    omega

end SubscriptionDesk.CalendarDay

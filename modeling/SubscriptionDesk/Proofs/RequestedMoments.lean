import Mathlib.Data.Set.Prod
import Mathlib.Order.Interval.Set.Basic
import SubscriptionDesk.RequestedTimes

/-!
# What requested times stand for

Requested times are kept as two sets of hours or as the two ends of a window, and they are compared
set by set or end by end. What they stand for is a set of moments: each forecast hour of each cycle,
or each millisecond of the window. The comparisons are those of the sets of moments wherever there
is a moment to compare. Without one they say more: two windows that end before they start ask for
the same moments, and need not cover each other.
-/

namespace SubscriptionDesk

inductive Moment where
  | forecast (hours : UInt8 × UInt16)
  | instant (millis : Int)

theorem Moment.forecast_injective : Function.Injective forecast := fun _ _ => forecast.inj

theorem Moment.instant_injective : Function.Injective instant := fun _ _ => instant.inj

theorem AscendingSet.includes_iff {α : Type} [LT α] [DecidableLT α] [DecidableEq α]
    {set other : AscendingSet α} :
    set.includes other = true ↔ {a | a ∈ other} ⊆ {a | a ∈ set} := by
  simp only [includes, List.all_eq_true, decide_eq_true_eq]
  exact Iff.rfl

namespace RequestedTimes

def moments : RequestedTimes → Set Moment
  | .recurring cycleHours forecastHours =>
      Moment.forecast '' ({hour | hour ∈ cycleHours} ×ˢ {hour | hour ∈ forecastHours})
  | .range period =>
      Moment.instant '' {millis | period.startMillis.toInt ≤ millis ∧
        millis ≤ period.endMillis.toInt}

variable {times other : RequestedTimes}

theorem nonempty_moments_recurring {cycleHours : AscendingSet UInt8}
    {forecastHours : AscendingSet UInt16} :
    (recurring cycleHours forecastHours).moments.Nonempty ↔
      (∃ hour, hour ∈ cycleHours) ∧ ∃ hour, hour ∈ forecastHours :=
  Set.image_nonempty.trans Set.prod_nonempty_iff

theorem nonempty_moments_range {period : Period} :
    (range period).moments.Nonempty ↔ period.startMillis ≤ period.endMillis := by
  rw [Int64.le_iff_toInt_le]
  exact Set.image_nonempty.trans Set.nonempty_Icc

theorem instant_notMem_moments_recurring {cycleHours : AscendingSet UInt8}
    {forecastHours : AscendingSet UInt16} {millis : Int} :
    Moment.instant millis ∉ (recurring cycleHours forecastHours).moments := by
  rintro ⟨hours, -, hsame⟩
  contradiction

theorem forecast_notMem_moments_range {period : Period} {hours : UInt8 × UInt16} :
    Moment.forecast hours ∉ (range period).moments := by
  rintro ⟨millis, -, hsame⟩
  contradiction

theorem covers_recurring_iff {cycleHours otherCycles : AscendingSet UInt8}
    {forecastHours otherForecasts : AscendingSet UInt16}
    (hsome : (recurring otherCycles otherForecasts).moments.Nonempty) :
    (recurring cycleHours forecastHours).covers (recurring otherCycles otherForecasts) = true ↔
      (recurring otherCycles otherForecasts).moments ⊆
        (recurring cycleHours forecastHours).moments := by
  calc (recurring cycleHours forecastHours).covers (recurring otherCycles otherForecasts) = true
    _ ↔ {hour | hour ∈ otherCycles} ⊆ {hour | hour ∈ cycleHours} ∧
          {hour | hour ∈ otherForecasts} ⊆ {hour | hour ∈ forecastHours} := by
        rw [covers, Bool.and_eq_true, AscendingSet.includes_iff, AscendingSet.includes_iff]
    _ ↔ {hour | hour ∈ otherCycles} ×ˢ {hour | hour ∈ otherForecasts} ⊆
          {hour | hour ∈ cycleHours} ×ˢ {hour | hour ∈ forecastHours} :=
        (Set.prod_subset_prod_iff' (Set.image_nonempty.mp hsome)).symm
    _ ↔ (recurring otherCycles otherForecasts).moments ⊆
          (recurring cycleHours forecastHours).moments :=
        (Set.image_subset_image_iff Moment.forecast_injective).symm

theorem covers_range_iff {period other : Period} (hsome : (range other).moments.Nonempty) :
    (range period).covers (range other) = true ↔
      (range other).moments ⊆ (range period).moments := by
  calc (range period).covers (range other) = true
    _ ↔ period.startMillis.toInt ≤ other.startMillis.toInt ∧
          other.endMillis.toInt ≤ period.endMillis.toInt := by
        rw [covers, Bool.and_eq_true, decide_eq_true_eq, decide_eq_true_eq,
          Int64.le_iff_toInt_le, Int64.le_iff_toInt_le]
    _ ↔ Set.Icc other.startMillis.toInt other.endMillis.toInt ⊆
          Set.Icc period.startMillis.toInt period.endMillis.toInt :=
        (Set.Icc_subset_Icc_iff (Set.nonempty_Icc.mp (Set.image_nonempty.mp hsome))).symm
    _ ↔ (range other).moments ⊆ (range period).moments :=
        (Set.image_subset_image_iff Moment.instant_injective).symm

/-- Of times of different kinds neither covers the other, and neither asks for what the other asks
for. -/
theorem covers_iff_subset (hsome : other.moments.Nonempty) :
    times.covers other = true ↔ other.moments ⊆ times.moments := by
  cases times with
  | recurring cycleHours forecastHours =>
      cases other with
      | recurring => exact covers_recurring_iff hsome
      | range =>
          refine iff_of_false Bool.false_ne_true fun hsubset => ?_
          obtain ⟨_, millis, hmillis, rfl⟩ := hsome
          exact instant_notMem_moments_recurring (hsubset ⟨millis, hmillis, rfl⟩)
  | range period =>
      cases other with
      | recurring =>
          refine iff_of_false Bool.false_ne_true fun hsubset => ?_
          obtain ⟨_, hours, hhours, rfl⟩ := hsome
          exact forecast_notMem_moments_range (hsubset ⟨hours, hhours, rfl⟩)
      | range => exact covers_range_iff hsome

/-! ### Times without a moment -/

theorem covers_refl (times : RequestedTimes) : times.covers times = true := by
  cases times with
  | recurring =>
      rw [covers, Bool.and_eq_true, AscendingSet.includes_iff, AscendingSet.includes_iff]
      exact ⟨subset_rfl, subset_rfl⟩
  | range => simp [covers]

theorem covers_trans {first second third : RequestedTimes} (hfirst : first.covers second = true)
    (hsecond : second.covers third = true) : first.covers third = true := by
  cases first <;> cases second <;> cases third <;> try contradiction
  case recurring.recurring.recurring =>
      simp only [covers, Bool.and_eq_true, AscendingSet.includes_iff] at hfirst hsecond ⊢
      exact ⟨hsecond.1.trans hfirst.1, hsecond.2.trans hfirst.2⟩
  case range.range.range =>
      simp only [covers, Bool.and_eq_true, decide_eq_true_eq] at hfirst hsecond ⊢
      exact ⟨Int64.le_trans hfirst.1 hsecond.1, Int64.le_trans hsecond.2 hfirst.2⟩

/-- **Covering is inclusion.** Times cover others that ask for some moment exactly if they ask for
every moment that these ask for. Covering is a preorder on all times, also on those that ask for
nothing or that no check would pass. -/
theorem covers_orderedByInclusion (first second third : RequestedTimes) :
    (second.moments.Nonempty →
        (first.covers second = true ↔ second.moments ⊆ first.moments)) ∧
      first.covers first = true ∧
      (first.covers second = true → second.covers third = true → first.covers third = true) :=
  ⟨covers_iff_subset, covers_refl first, covers_trans⟩

/-- Two windows that end before they start ask for the same, and neither covers the other. -/
example : (range ⟨7, 3⟩).covers (range ⟨9, 5⟩) = false ∧
    (range ⟨9, 5⟩).covers (range ⟨7, 3⟩) = false := by
  decide

def everySixHours : RequestedTimes := .recurring (.ofList [0, 6, 12, 18]) (.ofList [0, 3, 240])

def mornings : RequestedTimes := .recurring (.ofList [6]) (.ofList [3])

/-- A cycle without a forecast hour, which asks for nothing. -/
def bareMornings : RequestedTimes := .recurring (.ofList [6]) .empty

theorem covers_orderedByInclusion_everySixHours :
    mornings.moments.Nonempty ∧ everySixHours.moments.Nonempty ∧
      mornings.moments ⊆ everySixHours.moments ∧ ¬everySixHours.moments ⊆ mornings.moments ∧
      everySixHours.covers mornings = true ∧ mornings.covers bareMornings = true ∧
      everySixHours.covers bareMornings = true := by
  have hmornings : mornings.moments.Nonempty :=
    nonempty_moments_recurring.mpr ⟨⟨6, by decide⟩, ⟨3, by decide⟩⟩
  have hwhole : everySixHours.moments.Nonempty :=
    nonempty_moments_recurring.mpr ⟨⟨6, by decide⟩, ⟨3, by decide⟩⟩
  have hcovers : everySixHours.covers mornings = true := by decide
  have hbare : mornings.covers bareMornings = true := by decide
  obtain ⟨hinclusion, -, htrans⟩ :=
    covers_orderedByInclusion everySixHours mornings bareMornings
  have hexclusion := (covers_orderedByInclusion mornings everySixHours mornings).1 hwhole
  exact ⟨hmornings, hwhole, (hinclusion hmornings).mp hcovers,
    fun hsubset => absurd (hexclusion.mpr hsubset) (by decide), hcovers, hbare,
    htrans hcovers hbare⟩

end RequestedTimes

end SubscriptionDesk

import Mathlib.Algebra.Group.Action.Defs
import Mathlib.Algebra.Order.BigOperators.Group.List
import Mathlib.Algebra.Order.Ring.Nat
import Mathlib.Data.Finset.Card
import Mathlib.Order.Bounds.Defs
import SubscriptionDesk.RequestedTimes

/-!
# From one cycle to the next

Cycles come back every day, so that each follows each of the others after some hours, counted on
past midnight where need be. What a subscription can tolerate is the smallest of all these gaps, and
it is found without looking at most of them: with the hours in ascending order there is a neighbour
on the way from any hour to any later one, and the way past midnight leads over the last hour and
the first. The gaps between neighbours fill a day, which bounds the smallest by their number.
-/

namespace SubscriptionDesk.RequestedTimes

/-! ### Neighbours -/

variable {hours : List Nat} {first second gap : Nat} {rest : List Nat}

theorem length_gaps_cons : (gaps (first :: rest)).length = rest.length := by
  induction rest generalizing first with
  | nil => rfl
  | cons second rest ih => rw [gaps, List.length_cons, ih, List.length_cons]

theorem sum_gaps_cons (hascending : (first :: rest).Pairwise (· < ·)) :
    first + (gaps (first :: rest)).sum = (first :: rest).getLast (List.cons_ne_nil first rest) := by
  induction rest generalizing first with
  | nil => rfl
  | cons second rest ih =>
      obtain ⟨hfirst, hrest⟩ := List.pairwise_cons.mp hascending
      have hlt := hfirst second List.mem_cons_self
      rw [gaps, List.sum_cons, List.getLast_cons_cons, ← ih hrest]
      omega

/-- A gap is the way from one of the hours to a later one. -/
theorem exists_of_mem_gaps (hascending : hours.Pairwise (· < ·)) (hgap : gap ∈ gaps hours) :
    ∃ first ∈ hours, ∃ second ∈ hours, first < second ∧ first + gap = second := by
  fun_induction gaps hours with
  | case1 first second rest ih =>
      obtain ⟨hfirst, hrest⟩ := List.pairwise_cons.mp hascending
      rcases List.mem_cons.mp hgap with rfl | hgap
      · have hlt := hfirst second List.mem_cons_self
        exact ⟨first, List.mem_cons_self, second, by simp, hlt, by omega⟩
      · obtain ⟨earlier, hearlier, later, hlater, hlt, heq⟩ := ih hrest hgap
        exact ⟨earlier, List.mem_cons_of_mem _ hearlier, later, List.mem_cons_of_mem _ hlater,
          hlt, heq⟩
  | case2 => exact absurd hgap List.not_mem_nil

/-- On the way from an hour to a later one there is a gap between neighbours. -/
theorem exists_gap_le (hascending : hours.Pairwise (· < ·)) (hfirst : first ∈ hours)
    (hsecond : second ∈ hours) (hlt : first < second) :
    ∃ gap ∈ gaps hours, first + gap ≤ second := by
  fun_induction gaps hours with
  | case1 head next rest ih =>
      obtain ⟨hhead, hrest⟩ := List.pairwise_cons.mp hascending
      obtain ⟨hnext, -⟩ := List.pairwise_cons.mp hrest
      have hheadNext := hhead next List.mem_cons_self
      -- whatever comes later comes after the head, so it is in the rest
      have hlater : second ∈ next :: rest := by
        rcases List.mem_cons.mp hsecond with rfl | hlater
        · rcases List.mem_cons.mp hfirst with rfl | hfirst
          · omega
          · have := hhead first hfirst
            omega
        · exact hlater
      rcases List.mem_cons.mp hfirst with rfl | hfirst
      · refine ⟨next - first, List.mem_cons_self, ?_⟩
        rcases List.mem_cons.mp hlater with rfl | hlater
        · omega
        · have := hnext second hlater
          omega
      · obtain ⟨gap, hgap, hle⟩ := ih hrest hfirst hlater
        exact ⟨gap, List.mem_cons_of_mem _ hgap, hle⟩
  | case2 hours hshort =>
      rcases hours with _ | ⟨only, _ | ⟨next, rest⟩⟩
      · contradiction
      · simp_all
      · exact (hshort only next rest rfl).elim

/-! ### All gaps of a day -/

/-- The gaps from some hours of a day to others of them, counted on past midnight. -/
def cyclicGaps (hours : Finset Nat) : Set Nat :=
  {gap | ∃ first ∈ hours, ∃ second ∈ hours,
    first ≠ second ∧ (gap : ℤ) = ((second : ℤ) - first) % 24}

def roundGaps : List Nat → List Nat
  | first :: second :: rest =>
      (first + 24 - (second :: rest).getLast (List.cons_ne_nil second rest)) ::
        gaps (first :: second :: rest)
  | _ => []

theorem smallestGap?_eq_min? (hours : List Nat) : smallestGap? hours = (roundGaps hours).min? := by
  match hours with
  | [] | [_] | _ :: _ :: _ => rfl

structure Daily (hours : List Nat) : Prop where
  ascending : hours.Pairwise (· < ·)
  lt_day : ∀ hour ∈ hours, hour < 24

namespace Daily

theorem le_getLast {hour : Nat} (hdaily : Daily (first :: rest)) (hhour : hour ∈ first :: rest) :
    first ≤ hour ∧ hour ≤ (first :: rest).getLast (List.cons_ne_nil first rest) := by
  have hascending := hdaily.ascending
  constructor
  · rcases List.mem_cons.mp hhour with rfl | hhour
    · exact Nat.le_refl _
    · exact Nat.le_of_lt ((List.pairwise_cons.mp hascending).1 hour hhour)
  · obtain ⟨before, after, hsplit⟩ := List.append_of_mem hhour
    rcases List.eq_nil_or_concat after with rfl | ⟨after, last, rfl⟩
    · simp [hsplit]
    · rw [hsplit] at hascending
      have hlater := (List.pairwise_append.mp hascending).2.1
      have hlt := (List.pairwise_cons.mp hlater).1 last (by simp)
      simp only [hsplit]
      simpa using Nat.le_of_lt hlt

theorem first_lt_getLast (hdaily : Daily (first :: second :: rest)) :
    first < (second :: rest).getLast (List.cons_ne_nil second rest) ∧
      (second :: rest).getLast (List.cons_ne_nil second rest) < 24 := by
  have hlast := List.getLast_mem (List.cons_ne_nil second rest)
  exact ⟨(List.pairwise_cons.mp hdaily.ascending).1 _ hlast,
    hdaily.lt_day _ (List.mem_cons_of_mem _ hlast)⟩

/-- Going round from hour to hour takes a day. -/
theorem sum_roundGaps (hdaily : Daily (first :: second :: rest)) :
    (roundGaps (first :: second :: rest)).sum = 24 := by
  have hsum := sum_gaps_cons hdaily.ascending
  obtain ⟨hlt, hday⟩ := hdaily.first_lt_getLast
  rw [List.getLast_cons_cons] at hsum
  rw [roundGaps, List.sum_cons]
  omega

theorem length_roundGaps :
    (roundGaps (first :: second :: rest)).length = (first :: second :: rest).length := by
  rw [roundGaps, List.length_cons, length_gaps_cons]
  rfl

theorem mem_cyclicGaps_of_mem_roundGaps (hdaily : Daily hours) (hgap : gap ∈ roundGaps hours) :
    gap ∈ cyclicGaps hours.toFinset := by
  match hours with
  | [] | [_] => exact absurd hgap List.not_mem_nil
  | head :: next :: rest =>
      rcases List.mem_cons.mp hgap with rfl | hgap
      · obtain ⟨hlt, hday⟩ := hdaily.first_lt_getLast
        have hlast := List.getLast_mem (List.cons_ne_nil next rest)
        refine ⟨(next :: rest).getLast _, List.mem_toFinset.mpr (List.mem_cons_of_mem _ hlast),
          head, by simp, Nat.ne_of_gt hlt, ?_⟩
        omega
      · obtain ⟨first, hfirst, second, hsecond, hlt, heq⟩ :=
          exists_of_mem_gaps hdaily.ascending hgap
        have hday := hdaily.lt_day second hsecond
        refine ⟨first, List.mem_toFinset.mpr hfirst, second, List.mem_toFinset.mpr hsecond,
          Nat.ne_of_lt hlt, ?_⟩
        omega

/-- No gap is smaller than all gaps between neighbours. -/
theorem exists_roundGap_le (hdaily : Daily hours) (hgap : gap ∈ cyclicGaps hours.toFinset) :
    ∃ smaller ∈ roundGaps hours, smaller ≤ gap := by
  obtain ⟨first, hfirst, second, hsecond, hne, heq⟩ := hgap
  rw [List.mem_toFinset] at hfirst hsecond
  have hfirstDay := hdaily.lt_day first hfirst
  have hsecondDay := hdaily.lt_day second hsecond
  match hours with
  | [] => contradiction
  | [only] => simp_all
  | head :: next :: rest =>
      rcases Nat.lt_or_gt_of_ne hne with hlt | hgt
      · obtain ⟨smaller, hsmaller, hle⟩ :=
          exists_gap_le hdaily.ascending hfirst hsecond hlt
        exact ⟨smaller, List.mem_cons_of_mem _ hsmaller, by omega⟩
      · -- past midnight, from the last hour or before it to the first or after it
        have hlast := (hdaily.le_getLast hfirst).2
        have hhead := (hdaily.le_getLast hsecond).1
        rw [List.getLast_cons_cons] at hlast
        exact ⟨_, List.mem_cons_self, by omega⟩

theorem isLeast_smallestGap (hdaily : Daily hours) (hsmallest : smallestGap? hours = some gap) :
    IsLeast (cyclicGaps hours.toFinset) gap := by
  rw [smallestGap?_eq_min?, List.min?_eq_some_iff] at hsmallest
  obtain ⟨hmem, hleast⟩ := hsmallest
  refine ⟨hdaily.mem_cyclicGaps_of_mem_roundGaps hmem, fun other hother => ?_⟩
  obtain ⟨smaller, hsmaller, hle⟩ := hdaily.exists_roundGap_le hother
  exact (hleast smaller hsmaller).trans hle

/-- As many gaps as there are hours fill a day. -/
theorem length_mul_smallestGap_le (hdaily : Daily hours)
    (hsmallest : smallestGap? hours = some gap) :
    hours.length * gap ≤ 24 := by
  rw [smallestGap?_eq_min?, List.min?_eq_some_iff] at hsmallest
  match hours with
  | [] | [_] => exact absurd hsmallest.1 List.not_mem_nil
  | head :: next :: rest =>
      calc (head :: next :: rest).length * gap
        _ = (roundGaps (head :: next :: rest)).length • gap := by
            rw [length_roundGaps, smul_eq_mul]
        _ ≤ (roundGaps (head :: next :: rest)).sum :=
            List.card_nsmul_le_sum _ _ hsmallest.2
        _ = 24 := hdaily.sum_roundGaps

end Daily

theorem pos_of_mem_cyclicGaps {hours : Finset Nat} (hday : ∀ hour ∈ hours, hour < 24)
    (hgap : gap ∈ cyclicGaps hours) : 0 < gap := by
  obtain ⟨first, hfirst, second, hsecond, hne, heq⟩ := hgap
  have := hday first hfirst
  have := hday second hsecond
  omega

/-! ### The cycles of requested times -/

def dailyCycles : RequestedTimes → Finset Nat
  | .recurring cycleHours _ => {hour ∈ Finset.range 24 | UInt8.ofNat hour ∈ cycleHours}
  | .range _ => ∅

variable {times : RequestedTimes} {default : UInt32}

theorem lt_day_of_mem_dailyCycles {hour : Nat} (hhour : hour ∈ times.dailyCycles) : hour < 24 := by
  cases times with
  | recurring => exact Finset.mem_range.mp (Finset.mem_filter.mp hhour).1
  | range => exact absurd hhour (Finset.notMem_empty hour)

theorem toFinset_cycles (times : RequestedTimes) : times.cycles.toFinset = times.dailyCycles := by
  cases times with
  | range => rfl
  | recurring cycleHours forecastHours =>
      ext hour
      rw [List.mem_toFinset, cycles, List.mem_map, dailyCycles, Finset.mem_filter,
        Finset.mem_range]
      constructor
      · rintro ⟨found, hfound, rfl⟩
        obtain ⟨hmem, hlt⟩ := List.mem_filter.mp hfound
        refine ⟨UInt8.lt_iff_toNat_lt.mp (of_decide_eq_true hlt), ?_⟩
        rw [UInt8.ofNat_toNat]
        exact hmem
      · rintro ⟨hlt, hmem⟩
        have htoNat : (UInt8.ofNat hour).toNat = hour :=
          UInt8.toNat_ofNat_of_lt' (Nat.lt_trans hlt (by decide))
        refine ⟨UInt8.ofNat hour, List.mem_filter.mpr ⟨hmem, decide_eq_true ?_⟩, htoNat⟩
        rw [UInt8.lt_iff_toNat_lt, htoNat]
        exact hlt

theorem daily_cycles (times : RequestedTimes) : Daily times.cycles where
  ascending := by
    cases times with
    | range => exact List.Pairwise.nil
    | recurring cycleHours forecastHours =>
        exact List.pairwise_map.mpr
          ((cycleHours.ascending.filter _).imp UInt8.lt_iff_toNat_lt.mp)
  lt_day hour hhour := by
    have hdaily : hour ∈ times.dailyCycles := by
      rw [← toFinset_cycles]
      exact List.mem_toFinset.mpr hhour
    exact lt_day_of_mem_dailyCycles hdaily

theorem length_cycles (times : RequestedTimes) :
    times.cycles.length = times.dailyCycles.card := by
  rw [← toFinset_cycles, List.toFinset_card_of_nodup]
  exact (daily_cycles times).ascending.imp Nat.ne_of_lt

theorem smallestGap?_eq_none_iff : smallestGap? hours = none ↔ hours.length < 2 := by
  match hours with
  | [] | [_] | _ :: _ :: _ => simp [smallestGap?]

theorem toNat_maximumLatency (hsmallest : smallestGap? times.cycles = some gap) :
    (times.maximumLatency default).toNat = 60 * gap := by
  obtain ⟨first, -, second, -, -, heq⟩ := ((daily_cycles times).isLeast_smallestGap hsmallest).1
  have hsize : UInt32.size = 2 ^ 32 := rfl
  rw [maximumLatency, hsmallest]
  exact UInt32.toNat_ofNat_of_lt' (by omega)

/-! ### Subtractions -/

section Subtractions

variable {m : Type → Type} [Monad m] (subtract : Nat → Nat → m Nat)

def gapsBy : List Nat → m (List Nat)
  | first :: second :: rest => do
      let gap ← subtract second first
      return gap :: (← gapsBy (second :: rest))
  | _ => pure []

def smallestGapBy? : List Nat → m (Option Nat)
  | first :: second :: rest => do
      let last := (second :: rest).getLast (List.cons_ne_nil second rest)
      let pastMidnight ← subtract (first + 24) last
      return some ((← gapsBy subtract (first :: second :: rest)).foldl min pastMidnight)
  | _ => pure none

end Subtractions

def difference? (larger smaller : Nat) : Option Nat :=
  if smaller ≤ larger then some (larger - smaller) else none

theorem gapsBy_difference? (hascending : hours.Pairwise (· < ·)) :
    gapsBy difference? hours = some (gaps hours) := by
  fun_induction gaps hours with
  | case1 first second rest ih =>
      obtain ⟨hfirst, hrest⟩ := List.pairwise_cons.mp hascending
      have hle := Nat.le_of_lt (hfirst second List.mem_cons_self)
      simp [gapsBy, difference?, hle, ih hrest]
  | case2 hours hshort =>
      match hours with
      | [] | [_] => rfl
      | head :: next :: rest => exact (hshort head next rest rfl).elim

/-- No difference that is needed goes below zero. -/
theorem Daily.smallestGapBy?_difference? (hdaily : Daily hours) :
    smallestGapBy? difference? hours = some (smallestGap? hours) := by
  match hours with
  | [] | [_] => rfl
  | first :: second :: rest =>
      obtain ⟨-, hday⟩ := hdaily.first_lt_getLast
      have hpast : difference? (first + 24) ((second :: rest).getLast (List.cons_ne_nil _ _)) =
          some (first + 24 - (second :: rest).getLast (List.cons_ne_nil _ _)) :=
        if_pos (by omega)
      simp [smallestGapBy?, smallestGap?, hpast, gapsBy_difference? hdaily.ascending]

theorem gapsBy_sub (hours : List Nat) :
    gapsBy (m := Id) (fun larger smaller => pure (larger - smaller)) hours = pure (gaps hours) := by
  fun_induction gaps hours with
  | case1 first second rest ih => simp [gapsBy, ih]
  | case2 hours hshort =>
      match hours with
      | [] | [_] => rfl
      | head :: next :: rest => exact (hshort head next rest rfl).elim

theorem smallestGapBy?_sub (hours : List Nat) :
    smallestGapBy? (m := Id) (fun larger smaller => pure (larger - smaller)) hours =
      pure (smallestGap? hours) := by
  match hours with
  | [] | [_] => rfl
  | first :: second :: rest => simp [smallestGapBy?, smallestGap?, gapsBy_sub]

/-! ### The limit -/

structure LimitedByCycles (times : RequestedTimes) (default : UInt32) : Prop where
  several : 2 ≤ times.dailyCycles.card → ∃ gap, IsLeast (cyclicGaps times.dailyCycles) gap ∧
    (times.maximumLatency default).toNat = 60 * gap ∧ 0 < gap ∧
    times.dailyCycles.card * (times.maximumLatency default).toNat ≤ 1440
  few : times.dailyCycles.card < 2 → times.maximumLatency default = default
  /-- The gap is the one that is found with every subtraction watched, and none of them fails. -/
  differences : smallestGapBy? difference? times.cycles = some (smallestGap? times.cycles) ∧
    smallestGapBy? (m := Id) (fun larger smaller => pure (larger - smaller)) times.cycles =
      pure (smallestGap? times.cycles)

/-- **The limit is the smallest gap between cycles.** -/
theorem maximumLatency_limitedByCycles (times : RequestedTimes) (default : UInt32) :
    times.LimitedByCycles default := by
  have hdaily := daily_cycles times
  constructor
  case several =>
    intro hseveral
    rw [← length_cycles] at hseveral ⊢
    obtain ⟨gap, hsmallest⟩ : ∃ gap, smallestGap? times.cycles = some gap := by
      refine Option.ne_none_iff_exists'.mp fun hnone => ?_
      exact absurd (smallestGap?_eq_none_iff.mp hnone) (Nat.not_lt.mpr hseveral)
    have hleast := hdaily.isLeast_smallestGap hsmallest
    have hsum := hdaily.length_mul_smallestGap_le hsmallest
    rw [toFinset_cycles] at hleast
    have hlatency : (times.maximumLatency default).toNat = 60 * gap :=
      toNat_maximumLatency hsmallest
    refine ⟨gap, hleast, hlatency,
      pos_of_mem_cyclicGaps (fun _ hhour => lt_day_of_mem_dailyCycles hhour) hleast.1, ?_⟩
    rw [hlatency, Nat.mul_left_comm]
    omega
  case few =>
    intro hfew
    rw [← length_cycles] at hfew
    rw [maximumLatency, smallestGap?_eq_none_iff.mpr hfew]
  case differences => exact ⟨hdaily.smallestGapBy?_difference?, smallestGapBy?_sub times.cycles⟩

/-- From eleven at night to one in the morning. There is no thirtieth hour. -/
example : (recurring (.ofList [1, 23, 30]) .empty).maximumLatency 45 = 120 := by decide

end SubscriptionDesk.RequestedTimes

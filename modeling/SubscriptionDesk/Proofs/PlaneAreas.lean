import Mathlib.Data.Rat.Cast.Order
import Mathlib.Data.Real.Basic
import Mathlib.Order.Interval.Set.Basic
import Mathlib.Tactic.Positivity
import Mathlib.Tactic.Ring
import SubscriptionDesk.Proofs.AreaPoints

/-!
# Areas in the plane

The bounds of an area are compared by their bits, and the area is meant to be a part of the plane.
The two have to do with each other because the bits of finite numbers are in the order of the exact
numbers that they stand for: from one magnitude to the next the number grows, also where the
exponent does and the fraction starts again. So a valid area is a closed rectangle of the real
plane, which may be an edge or a corner only, and its relations to others are those of rectangles.
-/

namespace SubscriptionDesk

/-! ### Exact numbers -/

namespace Binary64

/-- How many times `2 ^ (-1074)`, the least positive number, a finite number with a magnitude is.
Its first bits are an exponent. Where that is zero, the others are the number as it is, and
elsewhere a one belongs in front of them. -/
def multiple (magnitude : Nat) : Nat :=
  let exponent := magnitude / 2 ^ 52
  let fraction := magnitude % 2 ^ 52
  if exponent = 0 then fraction else (2 ^ 52 + fraction) * 2 ^ (exponent - 1)

theorem multiple_lt_succ (magnitude : Nat) : multiple magnitude < multiple (magnitude + 1) := by
  have hdiv := Nat.div_add_mod magnitude (2 ^ 52)
  have hmod := Nat.mod_lt magnitude (Nat.two_pow_pos 52)
  generalize hexponent : magnitude / 2 ^ 52 = exponent at hdiv
  generalize hfraction : magnitude % 2 ^ 52 = fraction at hdiv hmod
  by_cases hlast : fraction + 1 = 2 ^ 52
  · have hnext : (magnitude + 1) / 2 ^ 52 = exponent + 1 ∧ (magnitude + 1) % 2 ^ 52 = 0 := by omega
    simp only [multiple, hexponent, hfraction, hnext, Nat.succ_ne_zero, if_false,
      Nat.add_sub_cancel, Nat.add_zero]
    split
    · rename_i hsubnormal
      rw [hsubnormal, Nat.pow_zero]
      omega
    · rename_i hnormal
      obtain ⟨smaller, rfl⟩ := Nat.exists_eq_succ_of_ne_zero hnormal
      calc (2 ^ 52 + fraction) * 2 ^ (smaller + 1 - 1)
        _ < (2 ^ 52 * 2) * 2 ^ smaller :=
            Nat.mul_lt_mul_of_pos_right (by omega) (Nat.two_pow_pos smaller)
        _ = 2 ^ 52 * 2 ^ (smaller + 1) := by rw [Nat.pow_succ']; ring
  · have hnext : (magnitude + 1) / 2 ^ 52 = exponent ∧
        (magnitude + 1) % 2 ^ 52 = fraction + 1 := by omega
    simp only [multiple, hexponent, hfraction, hnext]
    split
    · omega
    · exact Nat.mul_lt_mul_of_pos_right (by omega) (Nat.two_pow_pos _)

/-- The step to the first number with an exponent is as large as those before it. -/
example : multiple (2 ^ 52) = multiple (2 ^ 52 - 1) + 1 := by decide

theorem strictMono_multiple : StrictMono multiple := strictMono_nat_of_lt_succ multiple_lt_succ

def numerator (x : Binary64) : Int :=
  if x.isNegative then -(multiple x.magnitude : Int) else multiple x.magnitude

def value (x : Binary64) : ℚ := x.numerator / 2 ^ 1074

variable {x y : Binary64}

theorem position_le_iff : x.position ≤ y.position ↔ x.numerator ≤ y.numerator := by
  have hmono (first second : Nat) : multiple first ≤ multiple second ↔ first ≤ second :=
    strictMono_multiple.le_iff_le
  have hzero (magnitude : Nat) : multiple magnitude ≤ 0 ↔ magnitude ≤ 0 := hmono magnitude 0
  have hfirst := hmono x.magnitude y.magnitude
  have hsecond := hmono y.magnitude x.magnitude
  have hx := hzero x.magnitude
  have hy := hzero y.magnitude
  unfold position numerator
  split <;> split <;> omega

/-- Finite numbers are compared as the exact numbers are. -/
theorem le_iff_value_le (hx : x.isFinite = true) (hy : y.isFinite = true) :
    x.le y = true ↔ x.value ≤ y.value := by
  calc x.le y = true
    _ ↔ x.position ≤ y.position := by
        simp [le, isNaN_eq_false_of_isFinite hx, isNaN_eq_false_of_isFinite hy]
    _ ↔ x.numerator ≤ y.numerator := position_le_iff
    _ ↔ x.value ≤ y.value := by
        rw [value, value, div_le_div_iff_of_pos_right (by positivity), Int.cast_le]

theorem same_iff_le_and_le : x.same y = true ↔ x.le y = true ∧ y.le x = true := by
  have hposition : x.position = y.position ↔
      x.position ≤ y.position ∧ y.position ≤ x.position := le_antisymm_iff
  simp only [same, le_iff, Bool.and_eq_true, Bool.not_eq_true', decide_eq_true_eq, hposition]
  tauto

end Binary64

/-! ### Rectangles -/

namespace Envelope

noncomputable def southWest (box : Envelope) : ℝ × ℝ := (box.minX.value, box.minY.value)

noncomputable def northEast (box : Envelope) : ℝ × ℝ := (box.maxX.value, box.maxY.value)

def region (box : Envelope) : Set (ℝ × ℝ) := Set.Icc box.southWest box.northEast

variable {box other third : Envelope}

theorem le_iff_of_check (hbox : box.check = .ok ()) (hother : other.check = .ok ())
    {x y : Binary64} (hx : x ∈ box.bounds) (hy : y ∈ other.bounds) :
    x.le y = true ↔ (x.value : ℝ) ≤ y.value := by
  rw [Binary64.le_iff_value_le (isFinite_of_check hbox x hx) (isFinite_of_check hother y hy),
    Rat.cast_le]

theorem corner_le_corner (hbox : box.check = .ok ()) (hother : other.check = .ok ())
    {x y otherX otherY : Binary64} (hx : x ∈ box.bounds) (hy : y ∈ box.bounds)
    (hotherX : otherX ∈ other.bounds) (hotherY : otherY ∈ other.bounds) :
    ((x.value : ℝ), (y.value : ℝ)) ≤ ((otherX.value : ℝ), (otherY.value : ℝ)) ↔
      x.le otherX = true ∧ y.le otherY = true := by
  rw [le_iff_of_check hbox hother hx hotherX, le_iff_of_check hbox hother hy hotherY,
    Prod.mk_le_mk]

theorem southWest_le_southWest (hbox : box.check = .ok ()) (hother : other.check = .ok ()) :
    box.southWest ≤ other.southWest ↔
      box.minX.le other.minX = true ∧ box.minY.le other.minY = true := by
  apply corner_le_corner hbox hother <;> simp [bounds]

theorem northEast_le_northEast (hbox : box.check = .ok ()) (hother : other.check = .ok ()) :
    box.northEast ≤ other.northEast ↔
      box.maxX.le other.maxX = true ∧ box.maxY.le other.maxY = true := by
  apply corner_le_corner hbox hother <;> simp [bounds]

theorem southWest_le_northEast (hbox : box.check = .ok ()) (hother : other.check = .ok ()) :
    box.southWest ≤ other.northEast ↔
      box.minX.le other.maxX = true ∧ box.minY.le other.maxY = true := by
  apply corner_le_corner hbox hother <;> simp [bounds]

theorem corners_le (hbox : box.check = .ok ()) : box.southWest ≤ box.northEast :=
  (southWest_le_northEast hbox hbox).mpr (ordered_of_check hbox)

theorem intersects_iff_region (hbox : box.check = .ok ()) (hother : other.check = .ok ()) :
    box.intersects other = true ↔ (box.region ∩ other.region).Nonempty := by
  calc box.intersects other = true
    _ ↔ box.southWest ≤ other.northEast ∧ other.southWest ≤ box.northEast := by
        rw [southWest_le_northEast hbox hother, southWest_le_northEast hother hbox]
        simp only [intersects, Bool.and_eq_true]
        tauto
    _ ↔ box.southWest ⊔ other.southWest ≤ box.northEast ⊓ other.northEast := by
        rw [sup_le_iff, le_inf_iff, le_inf_iff]
        simp [corners_le hbox, corners_le hother]
    _ ↔ (box.region ∩ other.region).Nonempty := by
        rw [region, region, Set.Icc_inter_Icc, Set.nonempty_Icc]

theorem contains_iff_region (hbox : box.check = .ok ()) (hother : other.check = .ok ()) :
    box.contains other = true ↔ other.region ⊆ box.region := by
  calc box.contains other = true
    _ ↔ box.southWest ≤ other.southWest ∧ other.northEast ≤ box.northEast := by
        rw [southWest_le_southWest hbox hother, northEast_le_northEast hother hbox]
        simp only [contains, Bool.and_eq_true, and_assoc]
    _ ↔ other.region ⊆ box.region := (Set.Icc_subset_Icc_iff (corners_le hother)).symm

/-- An area contains another just if it has all points of it whose coordinates are such numbers. -/
theorem contains_iff_points (hother : other.check = .ok ()) :
    box.contains other = true ↔ other.points ⊆ box.points := by
  obtain ⟨hx, hy⟩ := ordered_of_check hother
  rw [contains, Bool.and_eq_true, Bool.and_eq_true, Bool.and_eq_true]
  constructor
  · rintro ⟨⟨⟨hwest, hsouth⟩, heast⟩, hnorth⟩ point ⟨hpointX, hpointY⟩
    exact ⟨⟨Binary64.le_trans hwest hpointX.1, Binary64.le_trans hpointX.2 heast⟩,
      Binary64.le_trans hsouth hpointY.1, Binary64.le_trans hpointY.2 hnorth⟩
  · intro hsubset
    obtain ⟨hminX, hmaxX, -⟩ := Binary64.le_iff.mp hx
    obtain ⟨hminY, hmaxY, -⟩ := Binary64.le_iff.mp hy
    -- the two corners say it all
    have hlow : (⟨other.minX, other.minY⟩ : Point) ∈ box.points :=
      hsubset ⟨⟨Binary64.le_refl hminX, hx⟩, Binary64.le_refl hminY, hy⟩
    have hhigh : (⟨other.maxX, other.maxY⟩ : Point) ∈ box.points :=
      hsubset ⟨⟨hx, Binary64.le_refl hmaxX⟩, hy, Binary64.le_refl hmaxY⟩
    exact ⟨⟨⟨hlow.1.1, hlow.2.1⟩, hhigh.1.2⟩, hhigh.2.2⟩

/-- Areas that contain each other have the same bounds, and other areas do not. -/
theorem contains_and_contains_iff_same :
    (box.contains other = true ∧ other.contains box = true) ↔ box.same other = true := by
  simp only [contains, same, Bool.and_eq_true, Binary64.same_iff_le_and_le]
  tauto

structure Geometric (box other third : Envelope) : Prop where
  meets : box.intersects other = true ↔ (box.region ∩ other.region).Nonempty
  /-- They meet just if they do so in a point that can be named. -/
  meetsInPoint : box.intersects other = true ↔ (box.points ∩ other.points).Nonempty
  holds : box.contains other = true ↔ other.region ⊆ box.region
  holdsPoints : box.contains other = true ↔ other.points ⊆ box.points
  meets_symm : box.intersects other = other.intersects box
  meets_self : box.intersects box = true
  holds_self : box.contains box = true
  holds_trans : box.contains other = true → other.contains third = true →
    box.contains third = true
  /-- Zero has two forms, so equal bounds need not have equal bits. -/
  holds_antisymm : (box.contains other = true ∧ other.contains box = true) ↔
    box.same other = true
  meets_of_holds : box.contains other = true → box.intersects other = true
  meets_of_holds_of_meets : box.contains other = true → other.intersects third = true →
    box.intersects third = true

/-- **Areas relate as rectangles of the plane do.** -/
theorem geometric_of_check (hbox : box.check = .ok ()) (hother : other.check = .ok ())
    (hthird : third.check = .ok ()) : Geometric box other third := by
  have hnonempty : other.region.Nonempty := Set.nonempty_Icc.mpr (corners_le hother)
  have hmeets := intersects_iff_region hbox hother
  have hholds := contains_iff_region hbox hother
  constructor
  case meets => exact hmeets
  case meetsInPoint => exact intersects_iff hbox hother
  case holds => exact hholds
  case holdsPoints => exact contains_iff_points hother
  case meets_symm =>
    rw [Bool.eq_iff_iff, hmeets, intersects_iff_region hother hbox, Set.inter_comm]
  case meets_self =>
    rw [intersects_iff_region hbox hbox, Set.inter_self]
    exact Set.nonempty_Icc.mpr (corners_le hbox)
  case holds_self => exact (contains_iff_region hbox hbox).mpr subset_rfl
  case holds_trans =>
    rw [hholds, contains_iff_region hother hthird, contains_iff_region hbox hthird]
    exact fun hfirst hsecond => hsecond.trans hfirst
  case holds_antisymm => exact contains_and_contains_iff_same
  case meets_of_holds =>
    rw [hholds, hmeets]
    intro hsubset
    rwa [Set.inter_eq_self_of_subset_right hsubset]
  case meets_of_holds_of_meets =>
    rw [hholds, intersects_iff_region hother hthird, intersects_iff_region hbox hthird]
    exact fun hsubset hsome => hsome.mono (Set.inter_subset_inter_left _ hsubset)

def world : Envelope := ⟨.ofInt (-180), .ofInt (-90), .ofInt 180, .ofInt 90⟩

/-- A part of a meridian, an area without width that lies between the two zeros. -/
def meridian : Envelope := ⟨.signed true 0, .ofInt (-45), .signed false 0, .ofInt 45⟩

def northEastern : Envelope := ⟨.signed false 0, .ofInt 45, .ofInt 10, .ofInt 50⟩

theorem geometric_of_check_meridian :
    (world.check = .ok () ∧ meridian.check = .ok () ∧ northEastern.check = .ok ()) ∧
      meridian.region ⊆ world.region ∧ (meridian.region ∩ northEastern.region).Nonempty ∧
      ¬northEastern.region ⊆ meridian.region ∧ world.intersects northEastern = true := by
  have hworld : world.check = .ok () := by decide +kernel
  have hmeridian : meridian.check = .ok () := by decide +kernel
  have hnorthEastern : northEastern.check = .ok () := by decide +kernel
  have hwhole := geometric_of_check hworld hmeridian hnorthEastern
  have hedge := geometric_of_check hmeridian hnorthEastern hworld
  have hholds : world.contains meridian = true := by decide +kernel
  have hmeets : meridian.intersects northEastern = true := by decide +kernel
  have hbeyond : ¬meridian.contains northEastern = true := by decide +kernel
  exact ⟨⟨hworld, hmeridian, hnorthEastern⟩, hwhole.holds.mp hholds, hedge.meets.mp hmeets,
    fun hsubset => hbeyond (hedge.holds.mpr hsubset), hwhole.meets_of_holds_of_meets hholds hmeets⟩

end Envelope

end SubscriptionDesk

import Mathlib.Data.Set.Basic
import SubscriptionDesk.Envelope

/-!
# The points of an area

An area is kept by its four bounds, which are numbers of limited precision. It stands for the points
between them, edges included. The greater of two lower bounds is itself such a number, so that areas
whose bounds do not lie apart have a point in common that can be named.
-/

namespace SubscriptionDesk

namespace Binary64

variable {x y z low high otherLow otherHigh : Binary64}

theorem le_iff :
    x.le y = true ↔ x.isNaN = false ∧ y.isNaN = false ∧ x.position ≤ y.position := by
  simp [le, and_assoc]

theorem le_trans (hxy : x.le y = true) (hyz : y.le z = true) : x.le z = true := by
  obtain ⟨hx, -, hfirst⟩ := le_iff.mp hxy
  obtain ⟨-, hz, hsecond⟩ := le_iff.mp hyz
  exact le_iff.mpr ⟨hx, hz, Int.le_trans hfirst hsecond⟩

theorem le_refl (hx : x.isNaN = false) : x.le x = true := le_iff.mpr ⟨hx, hx, Int.le_refl _⟩

theorem le_total (hx : x.isNaN = false) (hy : y.isNaN = false) :
    x.le y = true ∨ y.le x = true := by
  rcases Int.le_total x.position y.position with hxy | hyx
  · exact .inl (le_iff.mpr ⟨hx, hy, hxy⟩)
  · exact .inr (le_iff.mpr ⟨hy, hx, hyx⟩)

theorem isNaN_eq_false_of_isFinite (hx : x.isFinite = true) : x.isNaN = false := by
  have hsmall : x.magnitude < infinityMagnitude := of_decide_eq_true hx
  exact decide_eq_false (Nat.lt_asymm hsmall)

theorem le_of_lt_eq_false (hx : x.isFinite = true) (hy : y.isFinite = true)
    (hnot : y.lt x = false) : x.le y = true := by
  have hxReal := isNaN_eq_false_of_isFinite hx
  have hyReal := isNaN_eq_false_of_isFinite hy
  refine le_iff.mpr ⟨hxReal, hyReal, ?_⟩
  simpa [lt, hxReal, hyReal] using hnot

/-- Two stretches that do not lie apart have the greater of their beginnings in common. -/
theorem exists_between (hown : low.le high = true) (hother : otherLow.le otherHigh = true)
    (hreaches : low.le otherHigh = true) (hreached : otherLow.le high = true) :
    ∃ x : Binary64, (low.le x = true ∧ x.le high = true) ∧
      otherLow.le x = true ∧ x.le otherHigh = true := by
  have hlow : low.isNaN = false := (le_iff.mp hown).1
  have hotherLow : otherLow.isNaN = false := (le_iff.mp hother).1
  rcases le_total hlow hotherLow with hle | hle
  · exact ⟨otherLow, ⟨hle, hreached⟩, le_refl hotherLow, hother⟩
  · exact ⟨low, ⟨le_refl hlow, hown⟩, hle, hreaches⟩

end Binary64

structure Point where
  x : Binary64
  y : Binary64

namespace Envelope

variable {box other : Envelope}

def points (box : Envelope) : Set Point :=
  {point | (box.minX.le point.x = true ∧ point.x.le box.maxX = true) ∧
    box.minY.le point.y = true ∧ point.y.le box.maxY = true}

theorem isFinite_of_check (hcheck : box.check = .ok ()) :
    ∀ bound ∈ box.bounds, bound.isFinite = true := by
  unfold check at hcheck
  split at hcheck
  · contradiction
  · rename_i hfinite
    simpa using hfinite

/-- A valid area lies between its bounds. -/
theorem ordered_of_check (hcheck : box.check = .ok ()) :
    box.minX.le box.maxX = true ∧ box.minY.le box.maxY = true := by
  have hbounds := isFinite_of_check hcheck
  unfold check at hcheck
  split at hcheck
  · contradiction
  · split at hcheck
    · contradiction
    · rename_i hordered
      obtain ⟨hx, hy⟩ : box.maxX.lt box.minX = false ∧ box.maxY.lt box.minY = false := by
        simpa using hordered
      exact ⟨Binary64.le_of_lt_eq_false (hbounds _ (by simp [bounds]))
          (hbounds _ (by simp [bounds])) hx,
        Binary64.le_of_lt_eq_false (hbounds _ (by simp [bounds]))
          (hbounds _ (by simp [bounds])) hy⟩

/-- Valid areas intersect exactly if they have a point in common. -/
theorem intersects_iff (hbox : box.check = .ok ()) (hother : other.check = .ok ()) :
    box.intersects other = true ↔ (box.points ∩ other.points).Nonempty := by
  obtain ⟨hboxX, hboxY⟩ := ordered_of_check hbox
  obtain ⟨hotherX, hotherY⟩ := ordered_of_check hother
  rw [intersects, Bool.and_eq_true, Bool.and_eq_true, Bool.and_eq_true]
  constructor
  · rintro ⟨⟨⟨hwest, heast⟩, hsouth⟩, hnorth⟩
    obtain ⟨x, hx, hxOther⟩ := Binary64.exists_between hboxX hotherX hwest heast
    obtain ⟨y, hy, hyOther⟩ := Binary64.exists_between hboxY hotherY hsouth hnorth
    exact ⟨⟨x, y⟩, ⟨hx, hy⟩, hxOther, hyOther⟩
  · rintro ⟨point, ⟨hx, hy⟩, hxOther, hyOther⟩
    exact ⟨⟨⟨Binary64.le_trans hx.1 hxOther.2, Binary64.le_trans hxOther.1 hx.2⟩,
      Binary64.le_trans hy.1 hyOther.2⟩, Binary64.le_trans hyOther.1 hy.2⟩

end Envelope

end SubscriptionDesk

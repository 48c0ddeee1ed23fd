namespace SubscriptionDesk

structure Binary64 where
  bits : UInt64
  deriving DecidableEq

namespace Binary64

def magnitude (x : Binary64) : Nat := x.bits.toNat % Nat.pow 2 63

def isNegative (x : Binary64) : Bool := decide (Nat.pow 2 63 ≤ x.bits.toNat)

def infinityMagnitude : Nat := 0x7FF0000000000000

def isFinite (x : Binary64) : Bool := decide (x.magnitude < infinityMagnitude)

def isNaN (x : Binary64) : Bool := decide (infinityMagnitude < x.magnitude)

/-- Where a number lies on a line on which the two zeros coincide. -/
def position (x : Binary64) : Int :=
  if x.isNegative then -(x.magnitude : Int) else (x.magnitude : Int)

def le (x y : Binary64) : Bool :=
  !x.isNaN && !y.isNaN && decide (x.position ≤ y.position)

def lt (x y : Binary64) : Bool :=
  !x.isNaN && !y.isNaN && decide (x.position < y.position)

/-- Equality of the numbers, under which both zeros are equal and no NaN equals itself. -/
def same (x y : Binary64) : Bool :=
  !x.isNaN && !y.isNaN && decide (x.position = y.position)

def signed (negative : Bool) (magnitude : Nat) : Binary64 :=
  ⟨UInt64.ofNat (if negative then Nat.pow 2 63 + magnitude else magnitude)⟩

def nan : Binary64 := signed false 0x7FF8000000000000

def infinity (negative : Bool) : Binary64 := signed negative infinityMagnitude

def roundedQuotient (numerator denominator : Nat) : Nat :=
  let quotient := numerator / denominator
  let remainder := numerator % denominator
  if denominator < 2 * remainder then quotient + 1
  else if 2 * remainder = denominator then quotient + quotient % 2
  else quotient

def scaled (numerator denominator : Nat) (exponent : Int) : Nat × Nat :=
  (numerator * Nat.pow 2 exponent.toNat, denominator * Nat.pow 2 (-exponent).toNat)

/-- The weight of the last of the 53 bits kept of a fraction, or of the last bit there is. -/
def lastPlace (numerator denominator : Nat) : Int :=
  let guess : Int := (numerator.log2 : Int) - (denominator.log2 : Int) - 53
  let (top, bottom) := scaled numerator denominator (-guess)
  max (-1074) (if top / bottom < Nat.pow 2 53 then guess else guess + 1)

def ofFraction (negative : Bool) (numerator denominator : Nat) : Binary64 :=
  if numerator = 0 then signed negative 0
  else
    let place := lastPlace numerator denominator
    let (top, bottom) := scaled numerator denominator (-place)
    signed negative
      (min infinityMagnitude ((place + 1074).toNat * Nat.pow 2 52 + roundedQuotient top bottom))

def ofInt (n : Int) : Binary64 := ofFraction (decide (n < 0)) n.natAbs 1

def ofDecimal (negative : Bool) (digits : Nat) (exponent : Int) : Binary64 :=
  let leading : Int := (digits.log2 : Int) / 4 + exponent
  if digits = 0 then signed negative 0
  else if 400 < leading then infinity negative
  else if (digits.log2 : Int) + exponent < -400 then signed negative 0
  else ofFraction negative (digits * Nat.pow 10 exponent.toNat) (Nat.pow 10 (-exponent).toNat)

end Binary64

end SubscriptionDesk

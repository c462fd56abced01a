/-!
Finite doubles by the bits of their IEEE 754 encoding: a sign and a magnitude of 63 bits. The
order is that of the bits, so negative zero lies before zero, while numeric equality does not tell
the two zeros apart. Rounding goes to the nearest double, a tie to the even one.
-/
namespace InventorySearch.Number

/-- The magnitude bits of infinity. -/
def infiniteMagnitude : Nat := 0x7FF0000000000000

/-- A finite double: its sign, and its other 63 bits as a number below those of infinity. -/
structure FiniteDouble where
  negative : Bool
  magnitude : Nat
  magnitude_lt : magnitude < infiniteMagnitude
  deriving DecidableEq

namespace FiniteDouble

def zero (negative : Bool) : FiniteDouble := ⟨negative, 0, by decide⟩

/-- The 64 bits of the encoding as a number. -/
def bits (d : FiniteDouble) : Nat := (if d.negative then Nat.pow 2 63 else 0) + d.magnitude

/-- The integer that, times a power of two, is the absolute value. -/
def significand (d : FiniteDouble) : Nat :=
  if d.magnitude < Nat.pow 2 52 then d.magnitude
  else Nat.pow 2 52 + d.magnitude % Nat.pow 2 52

/-- The exponent of the power of two that goes with the significand. -/
def exponent (d : FiniteDouble) : Int :=
  if d.magnitude < Nat.pow 2 52 then -1074 else (d.magnitude / Nat.pow 2 52 : Nat) - 1075

/-- The place in the order of the bits: the magnitude, counted downwards from minus one for negative
doubles. -/
def rank (d : FiniteDouble) : Int :=
  if d.negative then -(d.magnitude : Int) - 1 else d.magnitude

/-- Compares by the order of the bits. -/
def order (a b : FiniteDouble) : Ordering := compare a.rank b.rank

/-- Numeric equality, for which the two zeros are one number. -/
def sameNumber (a b : FiniteDouble) : Bool :=
  a.magnitude == b.magnitude && (a.negative == b.negative || a.magnitude == 0)

def neg (d : FiniteDouble) : FiniteDouble := { d with negative := !d.negative }

end FiniteDouble

/-- The quotient rounded to the nearest whole number, a half to the even one. -/
def roundDiv (num den : Nat) : Nat :=
  let q := num / den
  let twice := 2 * (num % den)
  if twice < den ∨ (twice = den ∧ q % 2 = 0) then q else q + 1

/-- Multiplies the fraction `num / den` by a power of the base with any exponent. -/
def scaleFraction (base : Nat) (num den : Nat) (exponent : Int) : Nat × Nat :=
  if 0 ≤ exponent then (num * base.pow exponent.toNat, den)
  else (num, den * base.pow (-exponent).toNat)

/-- The magnitude bits of the double nearest to a positive fraction, infinity included. -/
def nearestMagnitude (num den : Nat) : Nat :=
  let guess : Int := (num.log2 : Int) - den.log2 - 52
  let (n, d) := scaleFraction 2 num den (-guess)
  let exponent := max (if n / d < Nat.pow 2 52 then guess - 1 else guess) (-1074)
  let (n, d) := scaleFraction 2 num den (-exponent)
  (exponent + 1074).toNat * Nat.pow 2 52 + roundDiv n d

namespace FiniteDouble

/-- The finite double nearest to a fraction, unless that is infinite. -/
def ofFraction? (negative : Bool) (num den : Nat) : Option FiniteDouble :=
  if num = 0 then some (zero negative)
  else
    let magnitude := nearestMagnitude num den
    if h : magnitude < infiniteMagnitude then some ⟨negative, magnitude, h⟩ else none

/-- The rounded product, unless it is infinite. -/
def mul? (a b : FiniteDouble) : Option FiniteDouble :=
  let (num, den) :=
    scaleFraction 2 (a.significand * b.significand) 1 (a.exponent + b.exponent)
  ofFraction? (a.negative != b.negative) num den

/-- The rounded quotient by a double other than zero, unless it is infinite. -/
def div? (a b : FiniteDouble) : Option FiniteDouble :=
  let (num, den) := scaleFraction 2 a.significand b.significand (a.exponent - b.exponent)
  ofFraction? (a.negative != b.negative) num den

/-- The double nearest to a coefficient times a power of ten, unless it is infinite. -/
def ofDecimal? (negative : Bool) (coefficient : Nat) (exponent : Int) : Option FiniteDouble :=
  if coefficient = 0 then some (zero negative)
  else
    -- Far outside the range of doubles the number of digits decides alone.
    let size := ((Nat.toDigits 10 coefficient).length : Int) + exponent
    if 310 < size then none
    else if size < -330 then some (zero negative)
    else
      let (num, den) := scaleFraction 10 coefficient 1 exponent
      ofFraction? negative num den

end FiniteDouble

end InventorySearch.Number

import InventorySearch.Number.Double

/-!
The shortest decimal text of a double: the fewest digits that read back as the same double, and
of those the nearest. For each number of digits, from one up, the two neighbours of the double on
that decimal grid are tried in exact arithmetic.
-/
namespace InventorySearch.Number

/-- A decimal number: digits times a power of ten. -/
structure Decimal where
  coefficient : Nat
  exponent : Int

/-- Drops the zeros at the end of the digits. -/
def Decimal.strip (d : Decimal) : Decimal :=
  let digits := Nat.toDigits 10 d.coefficient
  let zeros := (digits.reverse.takeWhile (· = '0')).length
  ⟨d.coefficient / Nat.pow 10 zeros, d.exponent + zeros⟩

/-- The least number of places before the point that a positive fraction needs; it is negative
when zeros follow the point. -/
def placesBefore (num den : Nat) : Int :=
  if den ≤ num then (Nat.toDigits 10 (num / den)).length
  else
    let places := (Nat.toDigits 10 (den / num)).length
    if num * Nat.pow 10 (places - 1) < den then 1 - (places : Int) else 2 - (places : Int)

namespace FiniteDouble

/-- Four times the significand, and its distances to the ends of the interval of reals that round
to the double; below a power of two the doubles lie closer. -/
def interval (d : FiniteDouble) : Nat × Nat × Nat :=
  let lower := if d.significand = Nat.pow 2 52 ∧ Nat.pow 2 53 ≤ d.magnitude then 1 else 2
  (4 * d.significand, lower, 2)

/-- The decimal with the given number of digits that is nearest to the double, if it reads back. -/
def onGrid? (d : FiniteDouble) (places : Int) (digits : Nat) : Option Decimal :=
  let (middle, below, above) := d.interval
  let exponent := places - digits
  let (unit, one) := scaleFraction 10 1 1 exponent
  let (unit, one) := scaleFraction 2 unit one (-(d.exponent - 2))
  let inside (c : Nat) : Bool :=
    if d.significand % 2 = 0 then
      (middle - below) * one ≤ c * unit && c * unit ≤ (middle + above) * one
    else (middle - below) * one < c * unit && c * unit < (middle + above) * one
  let c := middle * one / unit
  let down := middle * one - c * unit
  let up := (c + 1) * unit - middle * one
  if inside c && (!inside (c + 1) || down < up || (down == up && c % 2 == 0)) then
    some ⟨c, exponent⟩
  else if inside (c + 1) then some ⟨c + 1, exponent⟩
  else none

/-- The shortest decimal that reads back as a double other than zero. -/
def shortest (d : FiniteDouble) : Decimal :=
  let (num, den) := scaleFraction 2 d.significand 1 d.exponent
  let places := placesBefore num den
  match (List.range' 1 17).findSome? fun digits => d.onGrid? places digits with
  | some decimal => decimal.strip
  | none => ⟨0, 0⟩

/-- The digits with their point, in positional notation from 0.00001 up to below 10^16 and with an
exponent beyond; a whole number keeps one zero behind the point. -/
def layout (digits : List Char) (places : Int) : List Char :=
  if -5 < places ∧ places ≤ 16 then
    if places ≤ 0 then '0' :: '.' :: (List.replicate (-places).toNat '0' ++ digits)
    else if places < digits.length then
      digits.take places.toNat ++ '.' :: digits.drop places.toNat
    else digits ++ List.replicate (places.toNat - digits.length) '0' ++ ['.', '0']
  else
    let head := digits.take 1
    let tail := digits.drop 1
    let exponent := places - 1
    let sign := if exponent < 0 then '-' else '+'
    head ++ (if tail.isEmpty then [] else '.' :: tail) ++ 'e' :: sign ::
      Nat.toDigits 10 exponent.natAbs

def toText (d : FiniteDouble) : String :=
  let sign := if d.negative then ['-'] else []
  if d.magnitude = 0 then String.ofList (sign ++ ['0', '.', '0'])
  else
    let decimal := d.shortest
    let digits := Nat.toDigits 10 decimal.coefficient
    String.ofList (sign ++ layout digits (digits.length + decimal.exponent))

/-- The sixteen hexadecimal digits of the bits. -/
def hexText (d : FiniteDouble) : String :=
  let digits := Nat.toDigits 16 d.bits
  String.ofList (List.replicate (16 - digits.length) '0' ++ digits)

end FiniteDouble

end InventorySearch.Number

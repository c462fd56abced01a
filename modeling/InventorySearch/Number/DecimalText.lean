import InventorySearch.Number.Double
import InventorySearch.Number.Reading

/-!
Decimal notation of doubles: digits with an optional point and an optional exponent. A text may be
read with correct rounding, in which case the words for infinity and "not a number" are known too.
-/
namespace InventorySearch.Number

/-- The parts of a number in decimal notation, as they are written. -/
structure DecimalText where
  negative : Bool
  whole : List Char
  fraction : Option (List Char)
  exponent : Option Int

/-- Takes an exponent behind an `e` of either case; without digits there is none to take. -/
def exponentPart? : List Char → Option (Option Int × List Char)
  | c :: cs =>
    if c = 'e' ∨ c = 'E' then
      let (negative, rest) :=
        match cs with
        | '-' :: rest => (true, rest)
        | '+' :: rest => (false, rest)
        | rest => (false, rest)
      match digits? (rest.takeWhile Char.isDigit) with
      | some n => some (some (if negative then -(n : Int) else n), rest.dropWhile Char.isDigit)
      | none => none
    else some (none, c :: cs)
  | [] => some (none, [])

/-- Takes the digits behind a point, if a point comes first. -/
def fractionPart : List Char → Option (List Char) × List Char
  | '.' :: cs => (some (cs.takeWhile Char.isDigit), cs.dropWhile Char.isDigit)
  | cs => (none, cs)

/-- Takes a number without its sign; what digits it must have is left to the caller. -/
def DecimalText.take? (negative : Bool) (cs : List Char) : Option (DecimalText × List Char) :=
  let (fraction, rest) := fractionPart (cs.dropWhile Char.isDigit)
  (exponentPart? rest).map fun (exponent, rest) =>
    (⟨negative, cs.takeWhile Char.isDigit, fraction, exponent⟩, rest)

/-- What a text says as a number. -/
inductive DoubleReading where
  | finite (d : FiniteDouble)
  | notFinite

/-- The nearest double of a number with at least one digit before or behind the point. -/
def DecimalText.nearest? (t : DecimalText) : Option DoubleReading :=
  let fraction := t.fraction.getD []
  if t.whole.isEmpty && fraction.isEmpty then none
  else
    let coefficient := Text.digitsValue (t.whole ++ fraction)
    match FiniteDouble.ofDecimal? t.negative coefficient (t.exponent.getD 0 - fraction.length) with
    | some d => some (.finite d)
    | none => some .notFinite

/-- Reads a number behind an optional sign, or a word for one that is not finite. -/
def readDouble? (s : String) : Option DoubleReading :=
  let (negative, cs) :=
    match s.toList with
    | '-' :: cs => (true, cs)
    | '+' :: cs => (false, cs)
    | cs => (false, cs)
  if ["inf", "infinity", "nan"].contains (String.ofList (cs.map Char.toLower)) then
    some .notFinite
  else
    match DecimalText.take? negative cs with
    | some (t, []) => t.nearest?
    | _ => none

end InventorySearch.Number

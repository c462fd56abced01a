import InventorySearch.Text.Digit

/-!
Calendar dates of the years 0 to 9999 in the Gregorian calendar, extended backwards. A date is
written as four, two and two digits with hyphens between, and its order is that of time.
-/
namespace InventorySearch

/-- A year is a leap year when 4 divides it but 100 does not, or 400 does. -/
def isLeapYear (year : Nat) : Bool :=
  year % 4 == 0 && (year % 100 != 0 || year % 400 == 0)

/-- The number of days of a month; a number that names no month has none. -/
def daysInMonth (year month : Nat) : Nat :=
  match month with
  | 1 | 3 | 5 | 7 | 8 | 10 | 12 => 31
  | 4 | 6 | 9 | 11 => 30
  | 2 => if isLeapYear year then 29 else 28
  | _ => 0

/-- A day of the calendar. -/
structure Date where
  year : Nat
  month : Nat
  day : Nat
  year_le : year ≤ 9999
  day_pos : 1 ≤ day
  day_le : day ≤ daysInMonth year month
  deriving DecidableEq

namespace Date

/-- The day with the given numbers, if the calendar has it. -/
def ofNumbers? (year month day : Nat) : Option Date :=
  if h : year ≤ 9999 ∧ 1 ≤ day ∧ day ≤ daysInMonth year month then
    some ⟨year, month, day, h.1, h.2.1, h.2.2⟩
  else none

/-- The order of time: years first, then months, then days. -/
def order (a b : Date) : Ordering :=
  (compare a.year b.year).then ((compare a.month b.month).then (compare a.day b.day))

/-- A number with zeros before it to fill a width. -/
def padded (width n : Nat) : List Char :=
  let digits := Nat.toDigits 10 n
  List.replicate (width - digits.length) '0' ++ digits

def toChars (d : Date) : List Char :=
  padded 4 d.year ++ '-' :: padded 2 d.month ++ '-' :: padded 2 d.day

/-- The written form. -/
def toText (d : Date) : String := String.ofList d.toChars

/-- The three groups of digits of a text in the shape of a date, digits of any script included. -/
def groups? : List Char → Option (List Char × List Char × List Char)
  | [y1, y2, y3, y4, h1, m1, m2, h2, d1, d2] =>
    if h1 = '-' ∧ h2 = '-' ∧ [y1, y2, y3, y4, m1, m2, d1, d2].all Text.isDecimalDigit then
      some ([y1, y2, y3, y4], [m1, m2], [d1, d2])
    else none
  | _ => none

/-- The day that groups of ASCII digits name, if the calendar has it. -/
def ofGroups? (year month day : List Char) : Option Date :=
  if (year ++ month ++ day).all Char.isDigit then
    ofNumbers? (Text.digitsValue year) (Text.digitsValue month) (Text.digitsValue day)
  else none

end Date

end InventorySearch

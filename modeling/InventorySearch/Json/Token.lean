import InventorySearch.Json.Basic
import InventorySearch.Number.DecimalText

/-!
The tokens of a JSON text. Reading stops at the first place that starts no token. A number too
large for a double and a string with half of a surrogate pair are tokens without a value: they
are well formed and may be skipped, but nobody can use them.
-/
open InventorySearch.Number (FiniteDouble DecimalText)

namespace InventorySearch.Json

/-- A token; `malformed` stands for the rest of the text from the first fault on. A string is plain
when no backslash was needed to write it. -/
inductive Token where
  | beginObject
  | endObject
  | beginArray
  | endArray
  | colon
  | comma
  | null
  | bool (b : Bool)
  | number (n : Option Json.Number)
  | string (s : Option String) (plain : Bool)
  | malformed

def isSpace (c : Char) : Bool := c == ' ' || c == '\n' || c == '\t' || c == '\r'

/-- The greatest power of ten that a number is scaled by in one step. -/
def greatestScale : Nat := 308

/-- The double nearest to a power of ten. -/
def tenTo (k : Nat) : FiniteDouble :=
  (FiniteDouble.ofFraction? false (Nat.pow 10 k) 1).getD (.zero false)

/-- Scales a double by a power of ten, with one rounding for each factor; none when it grows
beyond the finite doubles. -/
def scaleByTen? (d : FiniteDouble) (exponent : Int) : Option FiniteDouble :=
  if exponent.natAbs ≤ greatestScale then
    if 0 ≤ exponent then d.mul? (tenTo exponent.natAbs) else d.div? (tenTo exponent.natAbs)
  else if d.magnitude = 0 then some d
  else if 0 ≤ exponent then none
  else
    match d.div? (tenTo greatestScale) with
    | some smaller => scaleByTen? smaller (exponent + greatestScale)
    | none => none
termination_by exponent.natAbs
decreasing_by
  simp only [greatestScale] at *
  omega

/-- Adds digits to a number while it stays below 2^64, and answers the digits left over. -/
def gatherDigits (n : Nat) : List Char → Nat × List Char
  | [] => (n, [])
  | c :: cs =>
    let next := 10 * n + (c.toNat - 48)
    if next < Nat.pow 2 64 then gatherDigits next cs else (n, c :: cs)

/-- The value of a number. One without point and exponent is whole if its 64 bits hold it. Any
other is a double made from the leading digits that 64 bits hold, scaled by a power of ten. -/
def numberValue (t : DecimalText) : Option Json.Number :=
  let (leading, extra) := gatherDigits 0 t.whole
  let double (significand : Nat) (exponent : Int) : Option Json.Number :=
    ((FiniteDouble.ofFraction? false significand 1).bind (scaleByTen? · exponent)).map
      fun d => .double (if t.negative then d.neg else d)
  match t.fraction, t.exponent with
  | none, none =>
    if !extra.isEmpty then double leading extra.length
    else if !t.negative then some (.whole leading)
    -- Minus zero is a double, as no whole number has its sign.
    else if 0 < leading ∧ leading ≤ Nat.pow 2 63 then some (.whole (-(leading : Int)))
    else double leading 0
  | fraction, exponent =>
    let digits := fraction.getD []
    let (significand, ignored) := gatherDigits leading digits
    let used := digits.length - ignored.length
    double significand ((extra.length : Int) - used + exponent.getD 0)

/-- Tells whether the digits of a number are those of JSON: no zero before other digits, and a
digit on each side of a point. -/
def wellFormedNumber (t : DecimalText) : Bool :=
  (match t.whole with
    | [] => false
    | c :: rest => c ≠ '0' || rest.isEmpty) &&
  t.fraction != some []

def takeNumber? (cs : List Char) : Option (Token × List Char) :=
  let (negative, digits) :=
    match cs with
    | '-' :: digits => (true, digits)
    | digits => (false, digits)
  match DecimalText.take? negative digits with
  | some (t, rest) => if wellFormedNumber t then some (.number (numberValue t), rest) else none
  | none => none

/-- The number of four hexadecimal digits. -/
def hexUnit? (a b c d : Char) : Option Nat := do
  let a ← Text.hexValue? a
  let b ← Text.hexValue? b
  let c ← Text.hexValue? c
  let d ← Text.hexValue? d
  return ((a * 16 + b) * 16 + c) * 16 + d

/-- The character that a letter behind a backslash stands for. -/
def escaped? (c : Char) : Option Char :=
  match c with
  | '\"' => some '\"'
  | '\\' => some '\\'
  | '/' => some '/'
  | 'b' => some (Char.ofNat 8)
  | 'f' => some (Char.ofNat 12)
  | 'n' => some '\n'
  | 'r' => some '\r'
  | 't' => some '\t'
  | _ => none

/-- A piece of a string: a character, a unit of a surrogate pair, or the closing quote. -/
inductive StringPiece where
  | char (c : Char)
  | unit (n : Nat)
  | close

/-- Takes the next piece of a string; control characters and unknown escapes are no piece. -/
def takePiece? : List Char → Option (StringPiece × List Char)
  | '\"' :: rest => some (.close, rest)
  | '\\' :: 'u' :: a :: b :: c :: d :: rest =>
    (hexUnit? a b c d).map fun n =>
      (if 0xD800 ≤ n ∧ n ≤ 0xDFFF then .unit n else .char (Char.ofNat n), rest)
  | '\\' :: c :: rest => (escaped? c).map fun c => (.char c, rest)
  | c :: rest => if c.toNat < 32 then none else some (.char c, rest)
  | [] => none

theorem length_of_takePiece? {cs rest : List Char} {piece : StringPiece}
    (h : takePiece? cs = some (piece, rest)) : rest.length < cs.length := by
  unfold takePiece? at h
  split at h
  · simp only [Option.some.injEq, Prod.mk.injEq] at h
    simp [← h.2]
  · simp only [Option.map_eq_some_iff, Prod.mk.injEq] at h
    obtain ⟨_, _, _, rfl⟩ := h
    simp only [List.length_cons]
    omega
  · simp only [Option.map_eq_some_iff, Prod.mk.injEq] at h
    obtain ⟨_, _, _, rfl⟩ := h
    simp only [List.length_cons]
    omega
  · split at h
    · simp at h
    · simp only [Option.some.injEq, Prod.mk.injEq] at h
      simp [← h.2]
  · simp at h

/-- The pieces of a string up to its closing quote, and what follows it. -/
def takePieces? (cs : List Char) : Option (List StringPiece × List Char) :=
  match h : takePiece? cs with
  | none => none
  | some (piece, rest) =>
    have := length_of_takePiece? h
    match piece with
    | .close => some ([], rest)
    | piece => (takePieces? rest).map fun (pieces, rest) => (piece :: pieces, rest)
termination_by cs.length

/-- The characters of the pieces; the units of a pair must be a high one and then a low one. -/
def pieceChars? : List StringPiece → Option (List Char)
  | [] => some []
  | .char c :: rest => (pieceChars? rest).map (c :: ·)
  | .close :: rest => pieceChars? rest
  | .unit high :: .unit low :: rest =>
    if high < 0xDC00 ∧ 0xDC00 ≤ low then
      (pieceChars? rest).map
        (Char.ofNat (0x10000 + (high - 0xD800) * 1024 + (low - 0xDC00)) :: ·)
    else none
  | .unit _ :: _ => none

/-- Takes a string behind its opening quote; without a backslash each piece is one character. -/
def takeString? (cs : List Char) : Option (Token × List Char) :=
  (takePieces? cs).map fun (pieces, rest) =>
    (.string ((pieceChars? pieces).map String.ofList) (!(cs.take pieces.length).contains '\\'),
      rest)

def takeWord? (word : String) (token : Token) (cs : List Char) : Option (Token × List Char) :=
  if word.toList.isPrefixOf cs then some (token, cs.drop word.length) else none

/-- Takes the token that the characters start with, white space aside. -/
def takeToken? (c : Char) (rest : List Char) : Option (Token × List Char) :=
  match c with
  | '\x7b' => some (.beginObject, rest)
  | '\x7d' => some (.endObject, rest)
  | '[' => some (.beginArray, rest)
  | ']' => some (.endArray, rest)
  | ':' => some (.colon, rest)
  | ',' => some (.comma, rest)
  | '\"' => takeString? rest
  | 'n' => takeWord? "ull" .null rest
  | 't' => takeWord? "rue" (.bool true) rest
  | 'f' => takeWord? "alse" (.bool false) rest
  | c => if c = '-' ∨ c.isDigit then takeNumber? (c :: rest) else none

/-- The tokens of at most `limit` characters; each token takes at least one. -/
def tokensWithin : Nat → List Char → List Token
  | 0, _ => []
  | _, [] => []
  | limit + 1, c :: rest =>
    if isSpace c then tokensWithin limit rest
    else
      match takeToken? c rest with
      | some (token, rest) => token :: tokensWithin limit rest
      | none => [.malformed]

/-- The tokens of a text up to its end or its first fault. -/
def tokens (s : String) : List Token :=
  let cs := s.toList
  tokensWithin cs.length cs

end InventorySearch.Json

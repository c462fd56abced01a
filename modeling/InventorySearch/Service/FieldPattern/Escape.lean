import InventorySearch.Service.FieldPattern.Basic
import InventorySearch.Text.Digit

/-!
Escapes in patterns: what may follow a backslash, and where it may stand. Since patterns are kept
to text, without the classes of all scripts an escape may not stand for bytes beyond ASCII; with
them word edges cannot be found.
-/
namespace InventorySearch.Service.FieldPattern

/-- What an escape stands for. -/
inductive Escape where
  /-- A character, perhaps written by the number of a byte. -/
  | character (c : Char) (byte : Bool)
  /-- The digits, blanks or word characters, or all but these. -/
  | members (negated : Bool)
  /-- The characters of a general category. -/
  | category
  /-- The start or the end of the text. -/
  | textEdge
  /-- The edge of a word, or a place that is none. -/
  | wordEdge

namespace Escape

/-- Takes the number that hexadecimal digits write, behind a number read before. -/
def takeHex? (s : Settings) : Nat → Nat → List Char → Option (Nat × List Char)
  | 0, n, cs => some (n, cs)
  | digits + 1, n, cs =>
    match s.skip cs with
    | [] => none
    | c :: rest => (Text.hexValue? c).bind fun d => takeHex? s digits (16 * n + d) rest

/-- Takes a code point of a number of hexadecimal digits; it must be that of a character. -/
def takeCodePoint? (s : Settings) (digits : Nat) (cs : List Char) : Option (Char × List Char) :=
  match takeHex? s digits 0 cs with
  | some (n, rest) => if n.isValidChar then some (Char.ofNat n, rest) else none
  | none => none

/-- The control character of which a letter behind a backslash is the name. -/
def control? (c : Char) : Option Char :=
  match c with
  | 'a' => some (Char.ofNat 7)
  | 't' => some '\t'
  | 'n' => some '\n'
  | 'v' => some (Char.ofNat 11)
  | 'f' => some (Char.ofNat 12)
  | 'r' => some '\r'
  | _ => none

/-- The escape of one character behind the backslash; letters and digits without a meaning are
refused, and so is all beyond ASCII. -/
def ofChar? (c : Char) : Option Escape :=
  match control? c with
  | some control => some (.character control false)
  | none =>
    if "dsw".toList.contains c then some (.members false)
    else if "DSW".toList.contains c then some (.members true)
    else if "Az".toList.contains c then some .textEdge
    else if "bB<>".toList.contains c then some .wordEdge
    else if c.toNat < 128 && !c.isAlphanum then some (.character c false)
    else none

/-- Takes the letter of a general category. -/
def takeCategory? (s : Settings) (cs : List Char) : Option (Escape × List Char) :=
  match s.skip cs with
  | [] => none
  | letter :: rest =>
    if "CLMNPSZ".toList.contains letter.toUpper then some (.category, rest) else none

/-- Takes an escape behind its backslash. -/
def take? (s : Settings) : List Char → Option (Escape × List Char)
  | [] => none
  | 'x' :: rest => (takeCodePoint? s 2 rest).map fun (c, rest) => (.character c true, rest)
  | 'u' :: rest => (takeCodePoint? s 4 rest).map fun (c, rest) => (.character c false, rest)
  | 'U' :: rest => (takeCodePoint? s 8 rest).map fun (c, rest) => (.character c false, rest)
  | 'p' :: rest => takeCategory? s rest
  | 'P' :: rest => takeCategory? s rest
  | c :: rest => (ofChar? c).map fun escape => (escape, rest)

/-- Tells whether an escape may stand by itself. -/
def standsAlone (s : Settings) : Escape → Bool
  | character c byte => s.unicode || !byte || c.toNat < 128
  | members negated => s.unicode || !negated
  | category => s.unicode
  | textEdge => true
  | wordEdge => !s.unicode

/-- Tells whether an escape may stand in a class. -/
def isMember (s : Settings) : Escape → Bool
  | character c _ => s.unicode || c.toNat < 128
  | members negated => s.unicode || !negated
  | category => s.unicode
  | textEdge => false
  | wordEdge => false

end Escape

end InventorySearch.Service.FieldPattern

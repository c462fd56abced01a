import InventorySearch.Text.Blank

/-!
Patterns that log filters compare the values of fields with: the shape of a regular expression, how
deep it nests, and the settings by which it is read.
-/
namespace InventorySearch.Service

/-- The shape of a regular expression. -/
inductive FieldPattern where
  | empty
  /-- One character, a class written by an escape, or a place between characters. -/
  | single
  /-- Flags for what follows. -/
  | flags
  /-- A class in brackets, with its nesting. -/
  | bracket (nesting : Nat)
  | repeated (p : FieldPattern)
  | group (p : FieldPattern)
  | sequence (ps : List FieldPattern)
  | choice (ps : List FieldPattern)

namespace FieldPattern

mutual

/-- The number of parts with parts of their own that lie around each other. -/
def nesting : FieldPattern → Nat
  | empty => 0
  | single => 0
  | flags => 0
  | bracket n => n
  | repeated p => nesting p + 1
  | group p => nesting p + 1
  | sequence ps => greatestNesting ps + 1
  | choice ps => greatestNesting ps + 1

/-- The nesting of the part that nests deepest. -/
def greatestNesting : List FieldPattern → Nat
  | [] => 0
  | p :: ps => max (nesting p) (greatestNesting ps)

end

/-- Parts one behind the other, given from the last to the first. -/
def ofReversed : List FieldPattern → FieldPattern
  | [] => empty
  | [p] => p
  | ps => sequence ps.reverse

/-- Alternatives, given from the last to the first. -/
def ofAlternatives : List FieldPattern → FieldPattern
  | [p] => p
  | ps => choice ps.reverse

/-- The settings by which a pattern is read; flags change them for the rest of a group. -/
structure Settings where
  /-- Classes are those of all scripts and not only of ASCII. -/
  unicode : Bool
  /-- Blanks and comments mean nothing. -/
  spaced : Bool

namespace Settings

def initial : Settings := ⟨true, false⟩

/-- Drops blanks, and comments from a number sign to the end of the line. -/
def dropBlanks (inComment : Bool) : List Char → List Char
  | [] => []
  | c :: rest =>
    if inComment then dropBlanks (c ≠ '\n') rest
    else if Text.isBlank c then dropBlanks false rest
    else if c = '#' then dropBlanks true rest
    else c :: rest

/-- Drops what means nothing. -/
def skip (s : Settings) (cs : List Char) : List Char := if s.spaced then dropBlanks false cs else cs

/-- The next character that means something; a comment is taken for its own first character. -/
def next? (s : Settings) (cs : List Char) : Option Char :=
  if s.spaced then
    match cs.dropWhile Text.isBlank with
    | '#' :: rest => (rest.dropWhile Text.isBlank).head?
    | rest => rest.head?
  else cs.head?

/-- Whether flags set or clear the one with a letter; those behind a hyphen are cleared. -/
def flag? (flags : List Char) (letter : Char) : Option Bool :=
  if flags.contains letter then some (!(flags.takeWhile (· ≠ letter)).contains '-') else none

/-- The settings after flags. -/
def update (s : Settings) (flags : List Char) : Settings :=
  ⟨(flag? flags 'u').getD s.unicode, (flag? flags 'x').getD s.spaced⟩

end Settings

end FieldPattern

end InventorySearch.Service

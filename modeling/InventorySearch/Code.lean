import InventorySearch.Text.Blank

/-!
Closed lists of codes: the words by which a request or a file picks one of a few things. A file
must spell a code exactly; a request may add blanks around it and use capital letters.
-/
namespace InventorySearch

/-- A type with finitely many values, each known by its code. -/
class Coded (α : Type) where
  all : List α
  code : α → String

export Coded (code)

def ofCode? {α : Type} [Coded α] (text : String) : Option α :=
  Coded.all.find? fun a => code a = text

/-- A list of codes with a name for what is picked from it. -/
class Choice (α : Type) extends Coded α where
  kind : String

/-- A text that picks nothing from a list of codes. -/
structure CodeError where
  kind : String
  text : String
  deriving DecidableEq

def CodeError.message (e : CodeError) : String := "Invalid " ++ e.kind ++ ": " ++ e.text

/-- Picks by a code with any blanks around it and any case of its letters. -/
def pick {α : Type} [Choice α] (text : String) : Except CodeError α :=
  match ofCode? (Text.asciiLower (Text.trim text)) with
  | some a => .ok a
  | none => .error ⟨Choice.kind α, text⟩

end InventorySearch

/-! The parameters of a request, as they were submitted and in their order. -/
namespace InventorySearch

/-- Names with values; a name may come several times. -/
structure Params where
  pairs : List (String × String)
  deriving DecidableEq

namespace Params

def empty : Params := ⟨[]⟩

/-- Adds a parameter at the end. -/
def push (p : Params) (name value : String) : Params := ⟨p.pairs ++ [(name, value)]⟩

def first? (p : Params) (name : String) : Option String := p.pairs.lookup name

/-- The first value of a name, unless it is empty. -/
def nonEmpty? (p : Params) (name : String) : Option String :=
  (p.first? name).filter fun value => !value.isEmpty

/-- Tells whether a name was submitted, with any value. -/
def contains (p : Params) (name : String) : Bool := (p.first? name).isSome

end Params

end InventorySearch

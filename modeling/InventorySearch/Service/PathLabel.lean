import InventorySearch.Text.Digit
import InventorySearch.Text.Pieces

/-!
Labels of paths for counting requests: the name of a group and the ids of computers give way to
placeholders, so that there are few labels. Of two numbers that follow each other the second stays.
-/
namespace InventorySearch.Service

/-- Tells whether a segment is a number, in digits of any script. -/
def isNumberSegment (segment : List Char) : Bool :=
  !segment.isEmpty && segment.all Text.isDecimalDigit

/-- What stands for an id. -/
def idPlaceholder : List Char := "\x7bid\x7d".toList

/-- What stands for the name of a group. -/
def namePlaceholder : List Char := "\x7bname\x7d".toList

/-- Replaces numbers among segments. -/
def replaceIds : List (List Char) → List (List Char)
  | [] => []
  | segment :: rest =>
    if isNumberSegment segment then
      match rest with
      | [] => [idPlaceholder]
      -- The slash behind an id goes with it, so that a number that follows directly is left alone.
      | next :: more => idPlaceholder :: next :: replaceIds more
    else segment :: replaceIds rest

/-- Replaces the name of a group, which must not be empty. -/
def replaceGroupName (segments : List (List Char)) : List (List Char) :=
  match segments with
  | start :: api :: version :: groups :: name :: rest =>
    if start = [] ∧ api = "api".toList ∧ version = "v1".toList ∧ groups = "groups".toList ∧
        name ≠ [] then
      start :: api :: version :: groups :: namePlaceholder :: rest
    else segments
  | _ => segments

def joinSegments : List (List Char) → List Char
  | [] => []
  | [segment] => segment
  | segment :: rest => segment ++ '/' :: joinSegments rest

/-- The label of a path. What stands before the first slash is no segment. -/
def pathLabel (path : String) : String :=
  match replaceGroupName (Text.cutAt '/' path.toList) with
  | [] => ""
  | start :: segments => String.ofList (joinSegments (start :: replaceIds segments))

end InventorySearch.Service

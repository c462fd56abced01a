import InventorySearch.Text.Blank

/-! Media types of request bodies: which of them say that a body is JSON. -/
namespace InventorySearch.Service.MediaType

/-- Tells whether a character may stand in a name of a media type. -/
def isNameChar (c : Char) : Bool :=
  c.isAlphanum || "!#$%&'*+-.^_|~".toList.contains c || c.toNat == 0x60

/-- Tells whether a character may stand between quotes. -/
def isQuotedChar (c : Char) : Bool := 31 < c.toNat && c.toNat != 127

/-- Takes the value of a parameter: a name, or a text between quotes with blanks behind it. What is
left begins a further parameter. -/
def takeValue? (cs : List Char) : Option (List Char) :=
  match cs with
  -- The first character between the quotes may itself be a quote.
  | '\"' :: first :: rest =>
    match rest.dropWhile fun c => c ≠ '\"' with
    | _ :: behind =>
      if !(first :: rest.takeWhile fun c => c ≠ '\"').all isQuotedChar then none
      else
        match behind.dropWhile (· = ' ') with
        | [] => some []
        | ';' :: rest => some rest
        | _ => none
    | [] => none
  | _ =>
    match cs.dropWhile isNameChar with
    | [] => some []
    | ';' :: rest => if (cs.takeWhile isNameChar).isEmpty then none else some rest
    | _ => none

/-- Tells whether at most `limit` parameters are well formed. -/
def parametersWellFormed : Nat → List Char → Bool
  | 0, _ => false
  | limit + 1, cs =>
    match cs.dropWhile (· = ' ') with
    | [] => true
    | rest =>
      match (rest.takeWhile isNameChar).isEmpty, rest.dropWhile isNameChar with
      | false, '=' :: value =>
        match takeValue? value with
        | some rest => parametersWellFormed limit rest
        | none => false
      | _, _ => false

/-- Tells whether a subtype is JSON: by its name before a plus sign, or by what follows one. -/
def isJsonSubtype (subtype : List Char) : Bool :=
  let first := subtype.take 1
  let rest := subtype.drop 1
  let behindPlus := (rest.reverse.takeWhile (· ≠ '+')).reverse
  if rest.contains '+' then
    let before := first ++ rest.take (rest.length - behindPlus.length - 1)
    before == "json".toList || behindPlus == "json".toList
  else subtype == "json".toList

/-- Tells whether a media type says that a body is JSON. -/
def isJson (s : String) : Bool :=
  let cs := (Text.asciiLower s).toList
  let kind := cs.takeWhile isNameChar
  match cs.dropWhile isNameChar with
  | '/' :: rest =>
    let subtype := rest.takeWhile isNameChar
    let wellFormed :=
      match rest.dropWhile isNameChar with
      | [] => true
      | c :: parameters =>
        c = ';' && !subtype.isEmpty && parametersWellFormed cs.length parameters
    s.toList.all (fun c => c = '\t' || (32 ≤ c.toNat && c.toNat < 127)) &&
      kind == "application".toList && isJsonSubtype subtype && wellFormed
  | _ => false

end InventorySearch.Service.MediaType

import InventorySearch.Service.FieldPattern.Escape

/-!
Classes in brackets: members, ranges and further classes side by side, joined by operators for what
two sets share, what one has more and what only one has. A class is read for its nesting.
-/
namespace InventorySearch.Service.FieldPattern

/-- Takes one member of a class, or one end of a range. -/
def takeMember? (s : Settings) : List Char → Option (Escape × List Char)
  | [] => none
  | '\\' :: rest => Escape.take? s rest
  | c :: rest => some (.character c false, rest)

/-- Drops a member of a class or a range of them; a range may not run backwards. -/
def dropRange? (s : Settings) (cs : List Char) : Option (List Char) :=
  match takeMember? s cs with
  | none => none
  | some (first, rest) =>
    if !first.isMember s then none
    else
      match s.skip rest with
      | '-' :: behind =>
        if s.next? behind = some ']' || s.next? behind = some '-' then some ('-' :: behind)
        else
          match first, takeMember? s (s.skip behind) with
          | .character a _, some (.character b byte, rest) =>
            if a ≤ b && (Escape.character b byte).isMember s then some rest else none
          | _, _ => none
      | rest => some rest

/-- The names of the classes of ASCII characters. -/
def classNames : List String :=
  ["alnum", "alpha", "ascii", "blank", "cntrl", "digit", "graph", "lower", "print", "punct",
    "space", "upper", "word", "xdigit"]

/-- Takes a class of ASCII characters written by its name, behind the opening bracket; the truth
value tells whether it is negated. -/
def takeNamedClass? (cs : List Char) : Option (Bool × List Char) :=
  match cs with
  | ':' :: rest =>
    let (negated, rest) :=
      match rest with
      | '^' :: rest => (true, rest)
      | _ => (false, rest)
    match rest.dropWhile (· ≠ ':') with
    | ':' :: ']' :: behind =>
      if classNames.contains (String.ofList (rest.takeWhile (· ≠ ':'))) then some (negated, behind)
      else none
    | _ => none
  | _ => none

/-- The nesting of a set whose members, of these nestings, stand behind an operator with a set of
the nesting `left` before it, or behind none. -/
def setNesting (left : Option Nat) (members : List Nat) : Nat :=
  let right :=
    match members with
    | [] => 0
    | [n] => n
    | n :: ns => ns.foldl max n + 1
  match left with
  | none => right
  | some n => max n right + 1

mutual

/-- Takes a class behind its opening bracket, within a number of steps. Without the characters of
all scripts it may not be negated. -/
def takeClass? : Nat → Settings → List Char → Option (Nat × List Char)
  | 0, _, _ => none
  | steps + 1, s, cs =>
    match s.skip cs with
    | '^' :: rest => if s.unicode then takeSet? steps s true none [] rest else none
    | rest => takeSet? steps s true none [] rest

/-- Takes the rest of a class. At its start hyphens are members, and so is a closing bracket that
comes first. -/
def takeSet? : Nat → Settings → Bool → Option Nat → List Nat → List Char → Option (Nat × List Char)
  | 0, _, _, _, _, _ => none
  | steps + 1, s, atStart, left, members, cs =>
    match s.skip cs with
    | [] => none
    | c :: rest =>
      if atStart && c = '-' then takeSet? steps s true left (0 :: members) rest
      else if c = ']' then
        if atStart && members.isEmpty then takeSet? steps s false left [0] rest
        else some (setNesting left members + 1, rest)
      else if c = '[' then
        match takeNamedClass? rest with
        | some (negated, behind) =>
          if negated && !s.unicode then none
          else takeSet? steps s false left (0 :: members) behind
        | none =>
          match takeClass? steps s rest with
          | some (n, behind) => takeSet? steps s false left (n :: members) behind
          | none => none
      else if (c = '&' || c = '-' || c = '~') && rest.head? = some c then
        takeSet? steps s false (some (setNesting left members)) [] (rest.drop 1)
      else
        match dropRange? s (c :: rest) with
        | some behind => takeSet? steps s false left (0 :: members) behind
        | none => none

end

end InventorySearch.Service.FieldPattern

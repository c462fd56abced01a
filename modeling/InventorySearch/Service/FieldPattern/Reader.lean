import InventorySearch.Number.DecimalText
import InventorySearch.Service.FieldPattern.Bracket
import InventorySearch.Text.Alphanumeric

/-!
Reading patterns: a number, or else a regular expression with alternatives, groups, repetitions,
classes and escapes. A pattern cannot hold a closing brace, since that would end it, so a counted
repetition or a braced escape never comes to its end. Nothing looks ahead or back.
-/
namespace InventorySearch.Service.FieldPattern

/-- Tells whether a text names a group. -/
def isGroupName : List Char → Bool
  | [] => false
  | c :: rest =>
    (c = '_' || Text.isAlphabetic c) &&
      rest.all fun c => "_.[]".toList.contains c || Text.isAlphanumeric c

/-- Tells whether a text is made of flags, none twice, with at most one hyphen and that not last. -/
def areFlags (cs : List Char) : Bool :=
  cs.all "imsUuRx-".toList.contains && cs.eraseDups.length == cs.length && cs.getLast? ≠ some '-'

/-- How a parenthesis begins. -/
inductive GroupStart where
  | group (s : Settings) (name : Option (List Char))
  /-- Nothing is grouped; the settings are those of what follows. -/
  | flags (s : Settings)

/-- Takes the name of a group and the bracket behind it. -/
def takeGroupName? (s : Settings) (cs : List Char) : Option (GroupStart × List Char) :=
  let name := cs.takeWhile (· ≠ '>')
  match cs.dropWhile (· ≠ '>') with
  | _ :: behind => if isGroupName name then some (.group s (some name), behind) else none
  | [] => none

/-- Takes the beginning of a group behind its parenthesis. -/
def takeGroupStart? (s : Settings) (cs : List Char) : Option (GroupStart × List Char) :=
  match s.skip cs with
  | '?' :: 'P' :: '<' :: rest => takeGroupName? s rest
  | '?' :: '<' :: rest => takeGroupName? s rest
  | '?' :: rest =>
    let flags := rest.takeWhile fun c => c ≠ ':' && c ≠ ')'
    if !areFlags flags then none
    else
      match rest.dropWhile fun c => c ≠ ':' && c ≠ ')' with
      | ':' :: behind => some (.group (s.update flags) none, behind)
      | ')' :: behind => if flags.isEmpty then none else some (.flags (s.update flags), behind)
      | _ => none
  | rest => some (.group s none, rest)

/-- Takes what is neither a group nor a repetition. -/
def takeSimple? (s : Settings) (cs : List Char) : Option (FieldPattern × List Char) :=
  match cs with
  | [] => none
  | '\x7b' :: _ => none
  | '[' :: rest => (takeClass? (2 * cs.length + 2) s rest).map fun (n, rest) => (.bracket n, rest)
  | '\\' :: rest =>
    match Escape.take? s rest with
    | some (escape, rest) => if escape.standsAlone s then some (.single, rest) else none
    | none => none
  | '.' :: rest => if s.unicode then some (.single, rest) else none
  | _ :: rest => some (.single, rest)

mutual

/-- Takes parts up to a bar, a closing parenthesis or the end, within a number of steps. The parts
before are given from the last to the first, and so is the result; `names` are those of the groups
so far. Flags hold for what follows. -/
def takeParts? : Nat → Settings → List (List Char) → List FieldPattern → List Char →
    Option (List FieldPattern × Settings × List (List Char) × List Char)
  | 0, _, _, _, _ => none
  | steps + 1, s, names, parts, cs =>
    match s.skip cs with
    | [] => some (parts, s, names, [])
    | c :: rest =>
      if c = ')' || c = '|' then some (parts, s, names, c :: rest)
      else if c = '(' then
        match takeGroupStart? s rest with
        | none => none
        | some (.flags s, behind) => takeParts? steps s names (.flags :: parts) behind
        | some (.group inner name, behind) =>
          if name.any names.contains then none
          else
            match takeAlternatives? steps inner (name.toList ++ names) [] behind with
            | some (p, names, ')' :: behind) => takeParts? steps s names (.group p :: parts) behind
            | _ => none
      else if c = '*' || c = '+' || c = '?' then
        match parts with
        | [] => none
        | .flags :: _ => none
        | p :: earlier =>
          let behind := if rest.head? = some '?' then rest.drop 1 else rest
          takeParts? steps s names (.repeated p :: earlier) behind
      else
        match takeSimple? s (c :: rest) with
        | some (p, behind) => takeParts? steps s names (p :: parts) behind
        | none => none

/-- Takes alternatives up to a closing parenthesis or the end, behind others. -/
def takeAlternatives? : Nat → Settings → List (List Char) → List FieldPattern → List Char →
    Option (FieldPattern × List (List Char) × List Char)
  | 0, _, _, _, _ => none
  | steps + 1, s, names, others, cs =>
    match takeParts? steps s names [] cs with
    | some (parts, s, names, '|' :: rest) =>
      takeAlternatives? steps s names (ofReversed parts :: others) rest
    | some (parts, _, names, rest) =>
      some (ofAlternatives (ofReversed parts :: others), names, rest)
    | none => none

end

/-- The regular expression that a text is. -/
def ofText? (cs : List Char) : Option FieldPattern :=
  match takeAlternatives? (2 * cs.length + 2) .initial [] [] cs with
  | some (p, _, []) => some p
  | _ => none

/-- The greatest nesting of a pattern. -/
def nestingLimit : Nat := 250

/-- Tells whether a text is a pattern. -/
def isPattern (cs : List Char) : Bool :=
  (Number.readDouble? (String.ofList cs)).isSome ||
    (ofText? cs).any fun p => p.nesting ≤ nestingLimit

end InventorySearch.Service.FieldPattern

import InventorySearch.Text.CaseTable

/-!
Full lowercase mapping of a text. Two rules go beyond mapping each character by itself: the
capital I with a dot becomes two characters, and a capital sigma takes its final form when a
cased letter stands before it and none after it, case-ignorable characters aside.
-/
namespace InventorySearch.Text

/-- The lowercase form of one character out of context. -/
def lowerChar (c : Char) : List Char :=
  let n := c.toNat
  if n < 128 then
    [if 65 ≤ n ∧ n ≤ 90 then Char.ofNat (n + 32) else c]
  else if n = 0x130 then ['i', Char.ofNat 0x307]
  else
    match lowercaseRuns.findSome? fun run => run.map? n with
    | some lower => [lower]
    | none => [c]

/-- Tells whether the first character that is not case-ignorable is cased. -/
def startsCased (cs : List Char) : Bool :=
  match cs.dropWhile caseIgnorableCharacters.contains with
  | c :: _ => casedCharacters.contains c
  | [] => false

/-- The lowercase form of a capital sigma between what comes before and what comes after. -/
def lowerSigma (afterCased : Bool) (following : List Char) : Char :=
  if afterCased && !startsCased following then Char.ofNat 0x3C2 else Char.ofNat 0x3C3

/-- Lowers a text of which `afterCased` says whether the part before it ends in a cased letter. -/
def lowerFrom (afterCased : Bool) : List Char → List Char
  | [] => []
  | c :: rest =>
    let stillCased :=
      if caseIgnorableCharacters.contains c then afterCased else casedCharacters.contains c
    if c = Char.ofNat 0x3A3 then lowerSigma afterCased rest :: lowerFrom stillCased rest
    else lowerChar c ++ lowerFrom stillCased rest

def lowerChars (cs : List Char) : List Char := lowerFrom false cs

def lowercase (s : String) : String := String.ofList (lowerChars s.toList)

end InventorySearch.Text

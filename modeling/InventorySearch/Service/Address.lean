import InventorySearch.Number.Reading

/-!
Socket addresses: an IPv4 address or an IPv6 address in brackets, with a port. Decimal parts of an
IPv4 address have no leading zeros. An IPv6 address is printed with its longest run of zero groups
left out.
-/
namespace InventorySearch.Service

/-- An address to listen on. -/
inductive SocketAddress where
  | v4 (octets : List Nat) (port : Nat)
  | v6 (groups : List Nat) (scope port : Nat)
  deriving DecidableEq

namespace SocketAddress

/-- The number of a digit in bases up to 16. -/
def digitValue? (c : Char) : Option Nat :=
  if c.isDigit then some (c.toNat - 48)
  else if 'a' ≤ c ∧ c ≤ 'f' then some (c.toNat - 87)
  else if 'A' ≤ c ∧ c ≤ 'F' then some (c.toNat - 55)
  else none

/-- Tells whether a character is a digit in a base. -/
def isDigitOf (base : Nat) (c : Char) : Bool :=
  match digitValue? c with
  | some d => d < base
  | none => false

/-- Takes all digits of a base and answers their number, unless it reaches a bound. -/
def takeNumber? (base bound : Nat) (cs : List Char) : Option (Nat × List Char) :=
  let digits := cs.takeWhile (isDigitOf base)
  let n := digits.foldl (fun n c => n * base + (digitValue? c).getD 0) 0
  if digits.isEmpty || bound ≤ n then none else some (n, cs.dropWhile (isDigitOf base))

def takeOctet? (cs : List Char) : Option (Nat × List Char) :=
  let digits := cs.takeWhile Char.isDigit
  if 3 < digits.length || (1 < digits.length && digits.head? == some '0') then none
  else takeNumber? 10 256 cs

def takeChar? (c : Char) : List Char → Option (List Char)
  | d :: rest => if d = c then some rest else none
  | [] => none

def takeOctets? (cs : List Char) : Option (List Nat × List Char) := do
  let (a, cs) ← takeOctet? cs
  let cs ← takeChar? '.' cs
  let (b, cs) ← takeOctet? cs
  let cs ← takeChar? '.' cs
  let (c, cs) ← takeOctet? cs
  let cs ← takeChar? '.' cs
  let (d, cs) ← takeOctet? cs
  return ([a, b, c, d], cs)

/-- Takes the colon before a group, but for the first group. -/
def takeSeparator? (first : Bool) (cs : List Char) : Option (List Char) :=
  if first then some cs else takeChar? ':' cs

/-- Takes a group of an IPv6 address. -/
def takeGroup? (first : Bool) (cs : List Char) : Option (Nat × List Char) := do
  let cs ← takeSeparator? first cs
  if 4 < (cs.takeWhile (isDigitOf 16)).length then none else takeNumber? 16 65536 cs

/-- Takes an IPv4 address as the last two groups. -/
def takeEmbedded? (first : Bool) (cs : List Char) : Option (List Nat × List Char) := do
  let cs ← takeSeparator? first cs
  let (octets, cs) ← takeOctets? cs
  match octets with
  | [a, b, c, d] => return ([a * 256 + b, c * 256 + d], cs)
  | _ => none

/-- Takes at most `limit` groups, and tells whether the last two of them were an IPv4 address. -/
def takeGroups (first : Bool) : Nat → List Char → List Nat × Bool × List Char
  | 0, cs => ([], false, cs)
  | limit + 1, cs =>
    match if 0 < limit then takeEmbedded? first cs else none with
    | some (groups, rest) => (groups, true, rest)
    | none =>
      match takeGroup? first cs with
      | none => ([], false, cs)
      | some (g, rest) =>
        let (groups, embedded, rest) := takeGroups false limit rest
        (g :: groups, embedded, rest)

/-- Takes an IPv6 address: eight groups, or fewer with a double colon for the zeros left out. -/
def takeIPv6? (cs : List Char) : Option (List Nat × List Char) :=
  let (head, embedded, rest) := takeGroups true 8 cs
  if head.length = 8 then some (head, rest)
  else if embedded then none
  else
    match rest with
    | ':' :: ':' :: rest =>
      let (tail, _, rest) := takeGroups true (7 - head.length) rest
      some (head ++ List.replicate (8 - head.length - tail.length) 0 ++ tail, rest)
    | _ => none

/-- Takes the scope of an IPv6 address, which may be missing. -/
def takeScope (cs : List Char) : Nat × List Char :=
  match cs with
  | '%' :: rest => (takeNumber? 10 (Nat.pow 2 32) rest).getD (0, cs)
  | _ => (0, cs)

def takePort? (cs : List Char) : Option (Nat × List Char) := do
  let cs ← takeChar? ':' cs
  takeNumber? 10 65536 cs

def takeV4? (cs : List Char) : Option (SocketAddress × List Char) := do
  let (octets, cs) ← takeOctets? cs
  let (port, cs) ← takePort? cs
  return (.v4 octets port, cs)

def takeV6? (cs : List Char) : Option (SocketAddress × List Char) := do
  let cs ← takeChar? '[' cs
  let (groups, cs) ← takeIPv6? cs
  let (scope, cs) := takeScope cs
  let cs ← takeChar? ']' cs
  let (port, cs) ← takePort? cs
  return (.v6 groups scope port, cs)

/-- Reads an address with a port. -/
def read? (s : String) : Option SocketAddress :=
  match (takeV4? s.toList).or (takeV6? s.toList) with
  | some (address, []) => some address
  | _ => none

def octetsText (octets : List Nat) : String := String.intercalate "." (octets.map toString)

/-- The text of groups with colons between. -/
def groupsText (groups : List Nat) : String :=
  String.intercalate ":" (groups.map fun g => String.ofList (Nat.toDigits 16 g))

/-- The number of zero groups that a list starts with. -/
def leadingZeros (groups : List Nat) : Nat := (groups.takeWhile (· = 0)).length

/-- The first longest run of zero groups: where it starts and how long it is. -/
def longestZeros (groups : List Nat) : Nat × Nat :=
  (List.range groups.length).foldl
    (fun best i =>
      let run := leadingZeros (groups.drop i)
      if best.2 < run then (i, run) else best)
    (0, 0)

/-- The text of an IPv6 address; one that stands for an IPv4 address shows it. -/
def ipv6Text (groups : List Nat) : String :=
  match groups with
  | [0, 0, 0, 0, 0, 0xFFFF, x, y] =>
    "::ffff:" ++ octetsText [x / 256, x % 256, y / 256, y % 256]
  | _ =>
    let (start, run) := longestZeros groups
    if run ≤ 1 then groupsText groups
    else groupsText (groups.take start) ++ "::" ++ groupsText (groups.drop (start + run))

def toText : SocketAddress → String
  | v4 octets port => octetsText octets ++ ":" ++ toString port
  | v6 groups scope port =>
    let scopeText := if scope = 0 then "" else "%" ++ toString scope
    "[" ++ ipv6Text groups ++ scopeText ++ "]:" ++ toString port

end SocketAddress

end InventorySearch.Service

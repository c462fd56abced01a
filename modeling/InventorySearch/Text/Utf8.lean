/-!
UTF-8 bytes of a text, and the two ways of reading bytes back: strictly, naming the first fault,
and leniently, with a replacement character for each maximal invalid part.
-/
namespace InventorySearch.Text.Utf8

/-- The UTF-8 bytes of a text. -/
def encode (s : String) : List UInt8 := s.toByteArray.toList

/-- Why bytes are not UTF-8. -/
inductive Fault where
  /-- The `length` bytes from `index` on start no character. -/
  | invalid (length index : Nat)
  /-- The bytes end within the character that starts at `index`. -/
  | incomplete (index : Nat)
  deriving DecidableEq, Repr

def Fault.message : Fault → String
  | .invalid length index =>
    "invalid utf-8 sequence of " ++ toString length ++ " bytes from index " ++ toString index
  | .incomplete index => "incomplete utf-8 byte sequence from index " ++ toString index

/-- A character under way: how many bytes it still owes, the bounds of the next one, and the
number that its bytes so far make. -/
structure Pending where
  owed : Nat
  low : UInt8
  high : UInt8
  value : Nat

/-- What a byte means where a character may start. -/
inductive Lead where
  | whole (c : Char)
  | opens (p : Pending)
  | stray

/-- Reads a byte where a character may start. -/
def lead (b : UInt8) : Lead :=
  let n := b.toNat
  if n < 0x80 then .whole (Char.ofNat n)
  else if 0xC2 ≤ n && n ≤ 0xDF then .opens ⟨1, 0x80, 0xBF, n - 0xC0⟩
  else if n == 0xE0 then .opens ⟨2, 0xA0, 0xBF, 0⟩
  else if n == 0xED then .opens ⟨2, 0x80, 0x9F, 0xD⟩
  else if 0xE1 ≤ n && n ≤ 0xEF then .opens ⟨2, 0x80, 0xBF, n - 0xE0⟩
  else if n == 0xF0 then .opens ⟨3, 0x90, 0xBF, 0⟩
  else if 0xF1 ≤ n && n ≤ 0xF3 then .opens ⟨3, 0x80, 0xBF, n - 0xF0⟩
  else if n == 0xF4 then .opens ⟨3, 0x80, 0x8F, 4⟩
  else .stray

/-- Tells whether a byte can be the next one of a character under way. -/
def Pending.admits (p : Pending) (b : UInt8) : Bool := p.low ≤ b && b ≤ p.high

/-- Adds an admitted byte: the character is whole once nothing more is owed. -/
def Pending.add (p : Pending) (b : UInt8) : Lead :=
  let value := p.value * 64 + (b.toNat - 0x80)
  if p.owed ≤ 1 then .whole (Char.ofNat value) else .opens ⟨p.owed - 1, 0x80, 0xBF, value⟩

/-- The first fault of bytes from `index` on, `read` of which belong to the character under way. -/
def firstFaultFrom (index read : Nat) : Option Pending → List UInt8 → Option Fault
  | none, [] => none
  | some _, [] => some (.incomplete (index - read))
  | none, b :: rest =>
    match lead b with
    | .whole _ => firstFaultFrom (index + 1) 0 none rest
    | .opens p => firstFaultFrom (index + 1) 1 (some p) rest
    | .stray => some (.invalid 1 index)
  | some p, b :: rest =>
    if p.admits b then
      match p.add b with
      | .opens next => firstFaultFrom (index + 1) (read + 1) (some next) rest
      | _ => firstFaultFrom (index + 1) 0 none rest
    else some (.invalid read (index - read))

/-- The first fault of bytes that are not UTF-8. -/
def firstFault (bytes : List UInt8) : Fault :=
  (firstFaultFrom 0 0 none bytes).getD (.incomplete bytes.length)

/-- The text that the bytes encode, or the first fault. -/
def decode (bytes : List UInt8) : Except Fault String :=
  match String.fromUTF8? bytes.toByteArray with
  | some s => .ok s
  | none => .error (firstFault bytes)

/-- U+FFFD, written for each maximal invalid part. -/
def replacement : Char := Char.ofNat 0xFFFD

/-- Reads bytes leniently, after the bytes of a character under way. -/
def lossyFrom : Option Pending → List UInt8 → List Char
  | none, [] => []
  | some _, [] => [replacement]
  | none, b :: rest =>
    match lead b with
    | .whole c => c :: lossyFrom none rest
    | .opens p => lossyFrom (some p) rest
    | .stray => replacement :: lossyFrom none rest
  | some p, b :: rest =>
    if p.admits b then
      match p.add b with
      | .whole c => c :: lossyFrom none rest
      | .opens next => lossyFrom (some next) rest
      | .stray => replacement :: lossyFrom none rest
    else
      match lead b with
      | .whole c => replacement :: c :: lossyFrom none rest
      | .opens next => replacement :: lossyFrom (some next) rest
      | .stray => replacement :: replacement :: lossyFrom none rest

/-- The text that the bytes encode, with U+FFFD for each maximal invalid part. -/
def decodeLossy (bytes : List UInt8) : String :=
  match String.fromUTF8? bytes.toByteArray with
  | some s => s
  | none => String.ofList (lossyFrom none bytes)

end InventorySearch.Text.Utf8

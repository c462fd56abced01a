/-!
Base64 over the URL-safe alphabet without padding. Each text of bytes has one written form: a
symbol outside the alphabet, any padding and unused bits that are not zero are refused, and the
fault says where.
-/
namespace InventorySearch.Text.Base64

/-- The byte of the padding sign `=`. -/
def pad : UInt8 := 0x3D

/-- The symbol that writes a number below 64. -/
def symbol (n : Nat) : Char :=
  if n < 26 then Char.ofNat (65 + n)
  else if n < 52 then Char.ofNat (97 + (n - 26))
  else if n < 62 then Char.ofNat (48 + (n - 52))
  else if n = 62 then '-'
  else '_'

/-- The number that a byte writes as a symbol. -/
def value? (b : UInt8) : Option Nat :=
  let n := b.toNat
  if 65 ≤ n && n ≤ 90 then some (n - 65)
  else if 97 ≤ n && n ≤ 122 then some (n - 97 + 26)
  else if 48 ≤ n && n ≤ 57 then some (n - 48 + 52)
  else if n == 45 then some 62
  else if n == 95 then some 63
  else none

/-- Writes three bytes with four symbols, and the last one or two with two or three. -/
def encode : List UInt8 → List Char
  | a :: b :: c :: rest =>
    let n := a.toNat * 65536 + b.toNat * 256 + c.toNat
    symbol (n / 262144) :: symbol (n / 4096 % 64) :: symbol (n / 64 % 64) :: symbol (n % 64) ::
      encode rest
  | [a, b] =>
    let n := a.toNat * 1024 + b.toNat * 4
    [symbol (n / 4096), symbol (n / 64 % 64), symbol (n % 64)]
  | [a] =>
    let n := a.toNat * 16
    [symbol (n / 64), symbol (n % 64)]
  | [] => []

/-- Why a text is not the written form of any bytes. -/
inductive Fault where
  | invalidSymbol (byte : UInt8) (offset : Nat)
  | invalidLength (length : Nat)
  | invalidLastSymbol (byte : UInt8) (offset : Nat)
  | invalidPadding
  deriving DecidableEq, Repr

def Fault.message : Fault → String
  | .invalidSymbol byte offset =>
    "Invalid symbol " ++ toString byte.toNat ++ ", offset " ++ toString offset ++ "."
  | .invalidLength length => "Invalid input length: " ++ toString length
  | .invalidLastSymbol byte offset =>
    "Invalid last symbol " ++ toString byte.toNat ++ ", offset " ++ toString offset ++ "."
  | .invalidPadding => "Invalid padding"

/-- The number of the symbol at an offset. -/
def symbolAt (offset : Nat) (b : UInt8) : Except Fault Nat :=
  match value? b with
  | some n => .ok n
  | none => .error (.invalidSymbol b offset)

/-- Reads the last group of up to four symbols: padding may follow two of them, and nothing may
follow padding. Answers the numbers and whether there was padding. -/
def lastGroup (offset position : Nat) (firstPad : Option Nat) :
    List UInt8 → Except Fault (List Nat × Bool)
  | [] => .ok ([], firstPad.isSome)
  | b :: rest =>
    if b = pad then
      if position < 2 then .error (.invalidSymbol b (offset + position))
      else lastGroup offset (position + 1) (some (firstPad.getD position)) rest
    else
      match firstPad with
      | some p => .error (.invalidSymbol pad (offset + p))
      | none =>
        match symbolAt (offset + position) b, lastGroup offset (position + 1) none rest with
        | .error fault, _ => .error fault
        | .ok _, .error fault => .error fault
        | .ok n, .ok (ns, padded) => .ok (n :: ns, padded)

/-- The bytes of the last group, of which only the used bits may be set. -/
def lastBytes (offset : Nat) (group : List UInt8) : Except Fault (List UInt8) :=
  match lastGroup offset 0 none group with
  | .error fault => .error fault
  | .ok ([], _) => .ok []
  | .ok ([_], _) => .error (.invalidLength (offset + 1))
  | .ok (_, true) => .error .invalidPadding
  | .ok ([a, b], false) =>
    if b % 16 = 0 then .ok [UInt8.ofNat (a * 4 + b / 16)]
    else .error (.invalidLastSymbol (group.getD 1 0) (offset + 1))
  | .ok ([a, b, c], false) =>
    if c % 4 = 0 then .ok [UInt8.ofNat (a * 4 + b / 16), UInt8.ofNat (b % 16 * 16 + c / 4)]
    else .error (.invalidLastSymbol (group.getD 2 0) (offset + 2))
  | .ok (a :: b :: c :: d :: _, false) =>
    .ok [UInt8.ofNat (a * 4 + b / 16), UInt8.ofNat (b % 16 * 16 + c / 4),
      UInt8.ofNat (c % 4 * 64 + d)]

/-- Reads whole groups of four symbols, then the last group. -/
def decodeFrom (offset : Nat) : List UInt8 → Except Fault (List UInt8)
  | a :: b :: c :: d :: rest =>
    if rest.isEmpty then lastBytes offset [a, b, c, d]
    else do
      let a ← symbolAt offset a
      let b ← symbolAt (offset + 1) b
      let c ← symbolAt (offset + 2) c
      let d ← symbolAt (offset + 3) d
      let more ← decodeFrom (offset + 4) rest
      return UInt8.ofNat (a * 4 + b / 16) :: UInt8.ofNat (b % 16 * 16 + c / 4) ::
        UInt8.ofNat (c % 4 * 64 + d) :: more
  | group => lastBytes offset group

/-- A byte alone behind whole groups that is neither a symbol nor padding, such as a line end. -/
def strayLast? (bytes : List UInt8) : Option Fault :=
  if bytes.length % 4 = 1 then
    match bytes.getLast? with
    | some b =>
      if b ≠ pad ∧ (value? b).isNone then some (.invalidSymbol b (bytes.length - 1)) else none
    | none => none
  else none

/-- The bytes that a written form stands for; a stray last byte is reported before all else. -/
def decode (bytes : List UInt8) : Except Fault (List UInt8) :=
  match strayLast? bytes with
  | some fault => .error fault
  | none => decodeFrom 0 bytes

end InventorySearch.Text.Base64

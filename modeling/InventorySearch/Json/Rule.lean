import InventorySearch.Code
import InventorySearch.Json.Draft
import InventorySearch.Number.Reading

/-!
Rules for reading typed content from a draft. What stands first in the text decides the fault:
text that is not JSON is malformed, JSON of another shape than asked for is misshapen. An object
with fixed fields may also be written as an array of the fields in their order.
-/
namespace InventorySearch.Json

/-- Why content is refused. -/
inductive Fault where
  | malformed
  | misshapen
  deriving DecidableEq

/-- A rule reads a draft of which no more than a number of containers may lie around each other. -/
abbrev Rule (α : Type) := Nat → Draft → Except Fault α

/-- The fault of a value of the wrong kind; it is read to its end before it is refused. -/
def Draft.wrongKind : Draft → Fault
  | .number none => .malformed
  | .string none _ => .malformed
  | .malformed => .malformed
  | _ => .misshapen

namespace Rule

def any : Rule Json := fun room draft =>
  match draft.toJson? room with
  | some value => .ok value
  | none => .error .malformed

def text : Rule String := fun _ draft =>
  match draft with
  | .string (some s) _ => .ok s
  | other => .error other.wrongKind

/-- A whole number of 64 bits. -/
def int64 : Rule Int64 := fun _ draft =>
  match draft with
  | .number (some (.whole n)) =>
    match Number.int64? n with
    | some n => .ok n
    | none => .error .misshapen
  | other => .error other.wrongKind

/-- A value, or null for none. -/
def nullable {α : Type} (rule : Rule α) : Rule (Option α) := fun room draft =>
  match draft with
  | .null => .ok none
  | other => (rule room other).map some

/-- A code, spelt exactly, or an object that maps a code to null. -/
def code {α : Type} [Coded α] : Rule α := fun room draft =>
  match draft with
  | .string (some s) _ =>
    match ofCode? s with
    | some a => .ok a
    | none => .error .misshapen
  | .object ((.string (some s) _, value) :: rest) =>
    match room, ofCode? s, value with
    | 0, _, _ => .error .malformed
    | _, none, _ => .error .misshapen
    | _, some a, .null => if rest.isEmpty then .ok a else .error .malformed
    | _, _, other => .error other.wrongKind
  | _ => .error .malformed

def list {α : Type} (rule : Rule α) : Rule (List α) := fun room draft =>
  match room, draft with
  | 0, .array _ => .error .malformed
  | room + 1, .array items => items.mapM (rule room)
  | _, other => .error other.wrongKind

/-- An object as its keys and values in the order of the text. -/
def entries {α β : Type} (key : Rule α) (value : Rule β) : Rule (List (α × β)) :=
  fun room draft =>
    match room, draft with
    | 0, .object _ => .error .malformed
    | room + 1, .object members =>
      members.mapM fun member => do
        let k ← key room member.1
        let v ← value room member.2
        return (k, v)
    | _, other => .error other.wrongKind

/-- A key of an object. -/
def keyText : Rule String := fun _ key =>
  match key with
  | .string (some s) _ => .ok s
  | _ => .error .malformed

/-- A key that writes a whole number of 64 bits the way JSON does. -/
def keyInt64 : Rule Int64 := fun room key =>
  match key with
  | .string (some s) true =>
    match takeNumber? s.toList with
    | some (.number n, []) => int64 room (.number n)
    | _ => .error .malformed
  | _ => .error .malformed

end Rule

/-- What an object with fixed fields is made of: the names in order, the rule for each name, and
how the fields, once all are read, make a value. -/
structure Fields (α : Type) where
  names : List String
  rule? : String → Option (Rule Unit)
  build : Nat → (String → Option Draft) → Except Fault α

namespace Fields

/-- One field with what it is when it is missing. -/
def field {α : Type} (name : String) (rule : Rule α) (missing : Except Fault α) : Fields α where
  names := [name]
  rule? key := if key = name then some fun room draft => (rule room draft).map fun _ => () else none
  build room find :=
    match find name with
    | some draft => rule room draft
    | none => missing

def required {α : Type} (name : String) (rule : Rule α) : Fields α :=
  field name rule (.error .misshapen)

/-- A field with a value for when it is missing. -/
def withDefault {α : Type} (name : String) (rule : Rule α) (default : α) : Fields α :=
  field name rule (.ok default)

instance : Applicative Fields where
  pure a := ⟨[], fun _ => none, fun _ _ => .ok a⟩
  seq f x :=
    { names := f.names ++ (x ()).names
      rule? := fun key => (f.rule? key).or ((x ()).rule? key)
      build := fun room find => do
        let f ← f.build room find
        let x ← (x ()).build room find
        return f x }

/-- Goes through the members in the order of the text. A known field may come once and must obey
its rule; any other member is skipped. -/
def readMembers {α : Type} (fields : Fields α) (room : Nat) (seen : List (String × Draft)) :
    List (Draft × Draft) → Except Fault (List (String × Draft))
  | [] => .ok seen
  | (.string (some key) _, value) :: rest =>
    match fields.rule? key with
    | none => if value.wellFormed then fields.readMembers room seen rest else .error .malformed
    | some rule =>
      if (seen.lookup key).isSome then .error .misshapen
      else
        match rule room value with
        | .ok () => fields.readMembers room ((key, value) :: seen) rest
        | .error fault => .error fault
  | _ :: _ => .error .malformed

/-- Goes through the items of an array that stands for the fields in their order. -/
def readItems {α : Type} (fields : Fields α) (room : Nat) (seen : List (String × Draft)) :
    List String → List Draft → Except Fault (List (String × Draft))
  | _, [] => .ok seen
  | [], _ :: _ => .error .malformed
  | name :: names, item :: items =>
    match fields.rule? name with
    | none => .error .misshapen
    | some rule =>
      match rule room item with
      | .ok () => fields.readItems room ((name, item) :: seen) names items
      | .error fault => .error fault

def rule {α : Type} (fields : Fields α) : Rule α := fun room draft =>
  match room, draft with
  | 0, .object _ => .error .malformed
  | 0, .array _ => .error .malformed
  | room + 1, .object members => do
    let seen ← fields.readMembers room [] members
    fields.build room fun name => seen.lookup name
  | room + 1, .array items =>
    match fields.readItems room [] fields.names items with
    | .ok seen => fields.build room fun name => seen.lookup name
    | .error fault => .error fault
  | _, other => .error other.wrongKind

end Fields

/-- Reads the value at the start of a text; what follows it is ignored. -/
def Rule.readStart {α : Type} (rule : Rule α) (s : String) : Except Fault α :=
  rule greatestDepth (Draft.ofText s).1

/-- Reads a text that holds one value and nothing else. -/
def Rule.readWhole {α : Type} (rule : Rule α) (s : String) : Except Fault α :=
  match Draft.ofText s with
  | (draft, []) => rule greatestDepth draft
  | (draft, _) => (rule greatestDepth draft).bind fun _ => .error .malformed

def Rule.readJson {α : Type} (rule : Rule α) (value : Json) : Except Fault α :=
  rule greatestDepth value.toDraft

end InventorySearch.Json

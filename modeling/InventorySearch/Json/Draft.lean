import InventorySearch.Json.Token

/-!
JSON text as it was read: members in their order with duplicates, and a mark at the place of the
first fault. A reader that goes through a draft in order meets exactly what stands before the
fault; whether anything follows the value is told apart.
-/
namespace InventorySearch.Json

/-- A value as read. After an item or member that nothing correct follows, a malformed one stands;
a number or string without a value is well formed but means nothing. The key of a member is a draft
too, since a text may put something malformed there. -/
inductive Draft where
  | null
  | bool (b : Bool)
  | number (n : Option Json.Number)
  | string (s : Option String) (plain : Bool)
  | array (items : List Draft)
  | object (members : List (Draft × Draft))
  | malformed

namespace Draft

/-- What a token is as the key of a member, which only a string can be. -/
def ofKeyToken : Token → Draft
  | .string s plain => .string s plain
  | _ => .malformed

mutual

/-- Takes a value from tokens, within a number of steps. -/
def take : Nat → List Token → Draft × List Token
  | 0, tokens => (.malformed, tokens)
  | steps + 1, tokens =>
    match tokens with
    | .null :: rest => (.null, rest)
    | .bool b :: rest => (.bool b, rest)
    | .number n :: rest => (.number n, rest)
    | .string s plain :: rest => (.string s plain, rest)
    | .beginArray :: .endArray :: rest => (.array [], rest)
    | .beginArray :: rest =>
      let (items, rest) := takeItems steps rest
      (.array items, rest)
    | .beginObject :: .endObject :: rest => (.object [], rest)
    | .beginObject :: rest =>
      let (members, rest) := takeMembers steps rest
      (.object members, rest)
    | rest => (.malformed, rest)

/-- Takes the items of an array up to its end. -/
def takeItems : Nat → List Token → List Draft × List Token
  | 0, tokens => ([.malformed], tokens)
  | steps + 1, tokens =>
    let (item, rest) := take steps tokens
    match rest with
    | .comma :: rest =>
      let (items, rest) := takeItems steps rest
      (item :: items, rest)
    | .endArray :: rest => ([item], rest)
    | rest => ([item, .malformed], rest)

/-- Takes the members of an object up to its end. -/
def takeMembers : Nat → List Token → List (Draft × Draft) × List Token
  | 0, tokens => ([(.malformed, .malformed)], tokens)
  | steps + 1, tokens =>
    match tokens with
    | key :: .colon :: rest =>
      let (value, rest) := take steps rest
      match rest with
      | .comma :: rest =>
        let (members, rest) := takeMembers steps rest
        ((ofKeyToken key, value) :: members, rest)
      | .endObject :: rest => ([(ofKeyToken key, value)], rest)
      | rest => ([(ofKeyToken key, value), (.malformed, .malformed)], rest)
    | key :: rest => ([(ofKeyToken key, .malformed)], rest)
    | [] => ([(.malformed, .malformed)], [])

end

/-- The value at the start of a text, and the tokens that follow it. -/
def ofText (s : String) : Draft × List Token :=
  let tokens := tokens s
  take (2 * tokens.length + 2) tokens

mutual

/-- Tells whether a value is well formed, so that it can be skipped. -/
def wellFormed : Draft → Bool
  | .array items => itemsWellFormed items
  | .object members => membersWellFormed members
  | .malformed => false
  | _ => true

def itemsWellFormed : List Draft → Bool
  | [] => true
  | item :: items => wellFormed item && itemsWellFormed items

/-- Tells whether all members are well formed and have strings for keys. -/
def membersWellFormed : List (Draft × Draft) → Bool
  | [] => true
  | (.string _ _, value) :: members => wellFormed value && membersWellFormed members
  | _ :: _ => false

end

mutual

/-- The value of a draft, if it is well formed, every part has a value and no more than `room`
containers lie around each other. -/
def toJson? (room : Nat) : Draft → Option Json
  | .null => some .null
  | .bool b => some (.bool b)
  | .number n => n.map .number
  | .string s _ => s.map .string
  | .array items =>
    match room with
    | 0 => none
    | room + 1 => (itemsToJson? room items).map .array
  | .object members =>
    match room with
    | 0 => none
    | room + 1 => (membersToJson? room members).map .ofMembers
  | .malformed => none

def itemsToJson? (room : Nat) : List Draft → Option (List Json)
  | [] => some []
  | item :: items =>
    match toJson? room item, itemsToJson? room items with
    | some item, some items => some (item :: items)
    | _, _ => none

def membersToJson? (room : Nat) : List (Draft × Draft) → Option (List (String × Json))
  | [] => some []
  | (.string (some key) _, value) :: members =>
    match toJson? room value, membersToJson? room members with
    | some value, some members => some ((key, value) :: members)
    | _, _ => none
  | _ :: _ => none

end

end Draft

/-- The number of containers that may lie around each other in a text. -/
def greatestDepth : Nat := 127

/-- The value of a text that holds one value and nothing else. -/
def ofText? (s : String) : Option Json :=
  match Draft.ofText s with
  | (draft, []) => draft.toJson? greatestDepth
  | _ => none

mutual

/-- A value as it would be read from its own text. -/
def toDraft : Json → Draft
  | .null => .null
  | .bool b => .bool b
  | .number n => .number (some n)
  | .string s => .string (some s) true
  | .array items => .array (itemsToDraft items)
  | .object members => .object (membersToDraft members)

def itemsToDraft : List Json → List Draft
  | [] => []
  | item :: items => toDraft item :: itemsToDraft items

def membersToDraft : List (String × Json) → List (Draft × Draft)
  | [] => []
  | (key, value) :: members => (.string (some key) true, toDraft value) :: membersToDraft members

end

end InventorySearch.Json

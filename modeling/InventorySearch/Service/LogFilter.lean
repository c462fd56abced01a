import InventorySearch.Number.Reading
import InventorySearch.Service.FieldPattern.Reader
import InventorySearch.Service.Log
import InventorySearch.Text.Blank
import InventorySearch.Text.Pieces

/-!
Log filters: directives separated by commas, each giving the level up to which events are kept. A
directive may ask for a beginning of the target and for a field of the event. Of the directives that
cover an event the narrowest decides, and of two that ask for the same the later.
-/
namespace InventorySearch.Service

/-- The level up to which the events of targets with a given beginning and with a given field are
kept. A directive for spans keeps no event of its own. -/
structure LogDirective where
  target : Option String
  field : Option String
  /-- The rank of the last level that is kept; nothing is kept up to rank zero. -/
  upTo : Nat
  spansOnly : Bool
  deriving DecidableEq

/-- A filter of log events. -/
structure LogFilter where
  directives : List LogDirective
  deriving DecidableEq

namespace LogDirective

/-- Tells whether a directive is about an event. -/
def covers (d : LogDirective) (e : LogEvent) : Bool :=
  !d.spansOnly &&
    (match d.target with
    | some start => start.toList.isPrefixOf e.target.toList
    | none => true) &&
    match d.field with
    | some name => e.hasField name
    | none => true

/-- How narrow a directive is: by the length of the beginning it asks for, none being the shortest,
and by whether it asks for a field. -/
def weight (d : LogDirective) : Nat :=
  2 * (match d.target with
    | some start => start.length + 1
    | none => 0) +
    if d.field.isSome then 1 else 0

/-- Tells whether a directive gives way to a later one. Among equally narrow ones that is so unless
its field is the greater name. -/
def yieldsTo (d later : LogDirective) : Bool :=
  d.weight < later.weight ||
    (d.weight == later.weight && !decide (later.field.getD "" < d.field.getD ""))

end LogDirective

namespace LogFilter

/-- The rank of the level that a word or a number names. -/
def levelRank? (word : String) : Option Nat :=
  match Number.readBelow? (Nat.pow 2 64) word with
  | some n => if n ≤ 5 then some n else none
  | none =>
    ["off", "error", "warn", "info", "debug", "trace"].idxOf? (Text.asciiLower word)

/-- Tells whether a directive may begin with a character. -/
def beginsDirective (c : Char) : Bool :=
  c == '-' || c == ':' || c == '_' || Text.isAlphanumeric c

/-- Reads the level of a directive behind the equals sign; without one every level is kept. -/
def readLevel? (word : List Char) : Option Nat :=
  if word.isEmpty then some 5 else levelRank? (String.ofList word)

/-- Reads the level behind a closing bracket, if one is given there. -/
def readLevelBehind? (text : List Char) (place : Nat) (rest : List Char) : Option Nat :=
  match rest with
  | [] => some 5
  | '=' :: _ => readLevel? (Text.dropBytes (place + 1) text)
  | _ => none

/-- Reads the field that a directive asks for: its name, and whether a value is asked for too. -/
def readField? (cs : List Char) : Option (String × Bool) :=
  let name := String.ofList (cs.takeWhile (· ≠ '='))
  match cs.dropWhile (· ≠ '=') with
  | [] => if cs.isEmpty then none else some (name, false)
  | _ :: value =>
    if FieldPattern.isPattern (value.takeWhile (· ≠ '=')) then some (name, true) else none

/-- Reads a directive from behind its opening bracket on, where `rest` begins and before which
`place` bytes stand. Only one that names no span and asks for no value is about events. -/
def readBracket? (text : List Char) (target : Option String) (place : Nat) (rest : List Char) :
    Option LogDirective :=
  let span := rest.takeWhile fun c => c ≠ ']' && c ≠ '\x7b'
  let start := place + Text.byteLength span + 1
  match rest.dropWhile fun c => c ≠ ']' && c ≠ '\x7b' with
  | ']' :: behind =>
    (readLevelBehind? text start behind).map fun upTo => ⟨target, none, upTo, true⟩
  | '\x7b' :: inside =>
    let length := Text.byteLength (inside.takeWhile (· ≠ '\x7d'))
    match inside.dropWhile (· ≠ '\x7d') with
    | '\x7d' :: ']' :: behind => do
      let (name, withValue) ← readField? (Text.takeBytes length (Text.dropBytes start text))
      let upTo ← readLevelBehind? text (start + length + 2) behind
      return ⟨target, some name, upTo, !span.isEmpty || withValue⟩
    | _ => none
  | _ => none

/-- Reads a directive. -/
def readDirective? (text : List Char) : Option LogDirective :=
  match Text.trimChars text with
  | [] => none
  | '[' :: rest => readBracket? text none 1 rest
  | c :: cs =>
    if !beginsDirective c then none
    else
      -- The parts are found without the blanks around the directive, but cut behind as many bytes of
      -- the text with the blanks, so that blanks in front spoil a level.
      let place := Text.byteLength ((c :: cs).takeWhile fun c => c ≠ '=' && c ≠ '[')
      let target := some (String.ofList (Text.takeBytes place text))
      match (c :: cs).dropWhile fun c => c ≠ '=' && c ≠ '[' with
      | '[' :: rest => readBracket? text target (place + 1) rest
      | _ :: _ =>
        (readLevel? (Text.dropBytes (place + 1) text)).map fun upTo => ⟨target, none, upTo, false⟩
      | [] =>
        match levelRank? (String.ofList text) with
        | some upTo => some ⟨none, none, upTo, false⟩
        | none => some ⟨some (String.ofList text), none, 5, false⟩

/-- Reads a filter; without directives only errors are kept. -/
def read? (s : String) : Option LogFilter :=
  let parts := (Text.cutAt ',' s.toList).filter fun part => !part.isEmpty
  (parts.mapM readDirective?).map fun directives =>
    if directives.isEmpty then ⟨[⟨none, none, 1, false⟩]⟩ else ⟨directives⟩

/-- The filter where none is configured. -/
def builtin : LogFilter where
  directives :=
    [⟨some "assetdesk_api", none, 4, false⟩, ⟨some "tower_http", none, 4, false⟩,
      ⟨none, none, 3, false⟩]

/-- The filter that a setting gives; one that cannot be read is ignored. -/
def ofSetting (setting : Option String) : LogFilter := (setting.bind read?).getD builtin

/-- The directive that decides about an event. -/
def decisive? (f : LogFilter) (e : LogEvent) : Option LogDirective :=
  (f.directives.filter fun d => d.covers e).foldl
    (fun best d =>
      match best with
      | some b => if b.yieldsTo d then some d else some b
      | none => some d)
    none

/-- Tells whether an event is kept. -/
def keeps (f : LogFilter) (e : LogEvent) : Bool :=
  match f.decisive? e with
  | some d => e.level.rank ≤ d.upTo
  | none => false

end LogFilter

end InventorySearch.Service

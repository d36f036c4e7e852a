import Recast.Json.Reader
import Recast.Json.Printer
import Recast.Text.Quote
/-!
Decoding typed values from JSON.

A decoder reads a `Node` in the order the text was written and stops at the first thing that
does not fit. Its error names the place where a reader that decodes while it reads would have
stopped: after a scalar of the wrong kind, at the opening bracket of a container of the wrong
kind, after the closing brace of a record that lacks a field, after the key of a field that is
not allowed. A value decoded from a `Json` value rather than from text has no places, and its
errors are shown without them.

Some errors arise after a value was read whole, from what the value turned out to be (a text
that is no relation path, a value that fits no form of an untagged choice). They are `unplaced`
when made, and the innermost container around them places them where a reader would stand
after trying to close it right behind the failing value: past the blanks after the value, and
past a closing bracket that comes next, or, in an array, past a comma and the blanks after it.

Records follow one discipline: members are read in their order; a known field is decoded when it
is met, a repeated one is refused, an unknown one is refused or skipped as the record says; a
record may also be written as an array of its fields in order. After the last member each field
that is absent takes its default or is reported missing, in the order the record declares them.
-/

namespace Recast.Json

/-- Why a value could not be decoded. -/
inductive DecodeError where
  /-- The text itself is not JSON. -/
  | read (error : ReadError)
  /-- The JSON does not have the expected shape. -/
  | invalid (message : String) (pos : Pos)
  /-- The JSON does not have the expected shape, found once a value was read whole. -/
  | unplaced (message : String)
  /-- An array holds more items than a record written as an array has fields: `count` items in
  all, the first one too many standing at `pos`. -/
  | excess (count : Nat) (pos : Pos)
  deriving Inhabited

namespace DecodeError

/-- The text of an error about a value read from text: the message and its place. -/
def textMessage : DecodeError → String
  | .read error => error.message
  | .invalid message pos => message ++ pos.suffix
  | .unplaced message => message
  | .excess _ pos => ReadFault.trailingCharacters.message ++ pos.suffix

/-- The text of an error about a value decoded from a JSON value: the message alone. -/
def valueMessage : DecodeError → String
  | .read error => error.message
  | .invalid message _ => message
  | .unplaced message => message
  | .excess count _ => "invalid length " ++ toString count ++ ", expected fewer elements in array"

/-- Places an error that has no place yet. -/
def place (pos : Pos) : DecodeError → DecodeError
  | .unplaced message => .invalid message pos
  | error => error

/-- Forgets the place of an error, as for a value decoded after it was read whole. -/
def unplace : DecodeError → DecodeError
  | .invalid message _ => .unplaced message
  | error => error

end DecodeError

/-- Decodes a node into a value of `α`. -/
abbrev Decoder (α : Type) := Node → Except DecodeError α

/-- A list of names as expectations list them: nothing, one, two joined by `or`, or `one of`
and all of them. -/
def oneOf (names : List String) : String :=
  let ticked := names.map fun name => "`" ++ name ++ "`"
  match ticked with
  | [] => ""
  | [only] => only
  | [first, second] => first ++ " or " ++ second
  | _ => "one of " ++ ", ".intercalate ticked

/-- How a type mismatch writes a binary64 value: every digit positionally, never with an
exponent, and `.0` after a whole number. -/
def mismatchLayout : Decimal.Layout :=
  { positional := none, wholeSuffix := ".0" }

namespace Node

/-- What a node holds, in the words of a type mismatch. -/
def unexpected : Node → String
  | .scalar .null _ _ => "null"
  | .scalar (.bool true) _ _ => "boolean `true`"
  | .scalar (.bool false) _ _ => "boolean `false`"
  | .scalar (.num (.int value)) _ _ => "integer `" ++ toString value ++ "`"
  | .scalar (.num (.float bits)) _ _ => "floating point `" ++ mismatchLayout.format bits ++ "`"
  | .scalar (.str text) _ _ => "string " ++ Text.quoteDiagnostic text
  | .scalar _ _ _ => "value"
  | .arr .. => "sequence"
  | .obj .. => "map"
  | .broken _ => "value"

/-- Where a type mismatch is reported: after a scalar, at the start of a container. -/
def mismatchPos : Node → Pos
  | .scalar _ _ stop => stop
  | node => node.start

/-- A type mismatch: the node holds something other than `expected`. -/
def mismatch (node : Node) (expected : String) : DecodeError :=
  match node with
  | .broken error => .read error
  | _ => .invalid ("invalid type: " ++ node.unexpected ++ ", expected " ++ expected) node.mismatchPos

/-- A failure reported after the whole node. -/
def failAfter (node : Node) (message : String) : DecodeError :=
  match node with
  | .broken error => .read error
  | _ => .invalid message node.stop

end Node

namespace Decoder

/-- A string. -/
def string : Decoder String
  | .scalar (.str text) _ _ => .ok text
  | node => .error (node.mismatch "a string")

/-- A boolean. -/
def bool : Decoder Bool
  | .scalar (.bool value) _ _ => .ok value
  | node => .error (node.mismatch "a boolean")

/-- Any JSON value. -/
def json : Decoder Json := fun node =>
  match node.toJson with
  | .ok value => .ok value
  | .error error => .error (.read error)

/-- `null` as nothing, anything else through the decoder. -/
def option {α : Type} (decode : Decoder α) : Decoder (Option α)
  | .scalar .null _ _ => .ok none
  | node => (decode node).map some

/-- Decodes items in order; an unplaced error is placed where the reader settled after its item. -/
def items {α : Type} (decode : Decoder α) : List (Node × Pos) → Except DecodeError (List α)
  | [] => .ok []
  | (item, settle) :: rest => do
    let value ← (decode item).mapError (DecodeError.place settle)
    let values ← items decode rest
    pure (value :: values)

/-- The error that stopped the reader inside a container, if any. -/
def cutOff : Option ReadError → Except DecodeError Unit
  | some error => .error (.read error)
  | none => .ok ()

/-- Skips a member's value: only what skipping met can stop it. -/
def skip : Option ReadError → Except DecodeError Unit
  | some error => .error (.read error)
  | none => .ok ()

/-- An array of values. -/
def list {α : Type} (decode : Decoder α) : Decoder (List α)
  | .arr nodes cut _ _ => do
    let values ← items decode nodes
    cutOff cut
    pure values
  | node => .error (node.mismatch "a sequence")

/-- Decodes members in order into a table; a repeated key keeps its first place and its last
value. -/
def members {α : Type} (decode : Decoder α) (table : Table α) :
    List (String × Pos × Node × Pos × Option ReadError) → Except DecodeError (Table α)
  | [] => .ok table
  | (key, _, node, settle, _) :: rest => do
    let value ← (decode node).mapError (DecodeError.place settle)
    members decode (Table.insert table key value) rest

/-- An object whose members all decode the same way. -/
def table {α : Type} (decode : Decoder α) : Decoder (Table α)
  | .obj nodes cut _ _ => do
    let values ← members decode [] nodes
    cutOff cut
    pure values
  | node => .error (node.mismatch "a map")

end Decoder

/-! ### Records -/

/-- One field of a record: its name, how its value is checked, and whether it may be absent. -/
structure FieldSpec where
  name : String
  check : Node → Except DecodeError Unit
  optional : Bool

/-- A field that must be present. -/
def FieldSpec.required {α : Type} (name : String) (decode : Decoder α) : FieldSpec :=
  ⟨name, fun node => (decode node).map fun _ => (), false⟩

/-- A field that takes a default when absent. -/
def FieldSpec.defaulted {α : Type} (name : String) (decode : Decoder α) : FieldSpec :=
  ⟨name, fun node => (decode node).map fun _ => (), true⟩

/-- How a record is read: its name in messages, its fields in declared order, and whether
members that are not fields are refused. -/
structure RecordSpec where
  name : String
  fields : List FieldSpec
  denyUnknown : Bool

namespace RecordSpec

/-- The expectation that names the record. -/
def expecting (spec : RecordSpec) : String :=
  "struct " ++ spec.name

/-- Looks up a field by name. -/
def field? (spec : RecordSpec) (name : String) : Option FieldSpec :=
  spec.fields.find? (·.name == name)

/-- The message for a member that is not a field. -/
def unknownField (spec : RecordSpec) (key : String) : String :=
  match spec.fields with
  | [] => "unknown field `" ++ key ++ "`, there are no fields"
  | fields => "unknown field `" ++ key ++ "`, expected " ++ oneOf (fields.map (·.name))

/-- Walks the members of an object in order, checking each field where it stands, and collects
the nodes of the fields present. -/
def walkMembers (spec : RecordSpec) (present : Table Node) :
    List (String × Pos × Node × Pos × Option ReadError) → Except DecodeError (Table Node)
  | [] => .ok present
  | (key, keyPos, node, settle, skip) :: rest =>
    match spec.field? key with
    | some field =>
      if Table.contains present key then
        .error (.invalid ("duplicate field `" ++ key ++ "`") keyPos)
      else do
        (field.check node).mapError (DecodeError.place settle)
        walkMembers spec (Table.insert present key node) rest
    | none =>
      if spec.denyUnknown then .error (.invalid (spec.unknownField key) keyPos)
      else do
        Decoder.skip skip
        walkMembers spec present rest

/-- The first declared field that is absent and has no default. -/
def firstMissing (spec : RecordSpec) (present : Table Node) : Option String :=
  (spec.fields.find? fun field => !field.optional && !Table.contains present field.name).map
    (·.name)

/-- Reads positional fields from the items of an array. Items beyond the fields are refused
unread, at the first of them, which stands right after the place `last` where the reader
settled behind the last field. -/
def walkItems (spec : RecordSpec) (whole : Node) (count : Nat) (last : Pos) (present : Table Node) :
    List FieldSpec → List (Node × Pos) → Except DecodeError (Table Node)
  | [], [] => .ok present
  | [], extra => .error (.excess (count + extra.length) ⟨last.line, last.column + 1⟩)
  | field :: fields, (node, settle) :: nodes => do
    (field.check node).mapError (DecodeError.place settle)
    walkItems spec whole (count + 1) settle (Table.insert present field.name node) fields nodes
  | field :: fields, [] =>
    if field.optional then walkItems spec whole (count + 1) last present fields []
    else
      let total := spec.fields.length
      .error (whole.failAfter ("invalid length " ++ toString count ++ ", expected struct " ++
        spec.name ++ " with " ++ toString total ++ " element" ++ (if total = 1 then "" else "s")))

/-- Reads a record: the nodes of the fields present, every one of them already checked. -/
def read (spec : RecordSpec) : Node → Except DecodeError (Table Node)
  | .obj nodes cut start stop => do
    let present ← spec.walkMembers [] nodes
    Decoder.cutOff cut
    match spec.firstMissing present with
    | some name => .error ((Node.obj nodes cut start stop).failAfter ("missing field `" ++ name ++ "`"))
    | none => pure present
  | .arr nodes cut start stop => do
    let present ← spec.walkItems (.arr nodes cut start stop) 0 start [] spec.fields nodes
    Decoder.cutOff cut
    pure present
  | node => .error (node.mismatch spec.expecting)

end RecordSpec

/-- Decodes a field that `RecordSpec.read` found present and checked. -/
def Decoder.field {α : Type} (present : Table Node) (name : String) (decode : Decoder α) :
    Except DecodeError α :=
  match Table.get? present name with
  | some node => decode node
  | none => .error (.invalid ("missing field `" ++ name ++ "`") Node.nowhere)

/-- Decodes a field, or gives the default when it is absent. -/
def Decoder.fieldOr {α : Type} (present : Table Node) (name : String) (decode : Decoder α)
    (default : α) : Except DecodeError α :=
  match Table.get? present name with
  | some node => decode node
  | none => .ok default

/-- Decodes a JSON value, which carries no places. -/
def Decoder.ofJson {α : Type} (decode : Decoder α) (value : Json) : Except DecodeError α :=
  decode (Node.ofJson value)

/-- Decodes a whole text: reading and decoding stop at the first problem; anything but blanks
after the value is refused once the value is decoded. -/
def Decoder.ofText {α : Type} (decode : Decoder α) (text : String) : Except DecodeError α := do
  let (node, trailing) := Node.read text
  let value ← decode node
  match trailing with
  | some error => throw (.read error)
  | none => pure value

end Recast.Json

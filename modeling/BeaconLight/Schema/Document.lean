import BeaconLight.Address
import BeaconLight.Json.Parser
import BeaconLight.Record.Section
import BeaconLight.Schema.Basic

/-!
# The JSON encoding of a schema

`Schema.toJson` writes a value as JSON: an integer as decimal text, bytes as hexadecimal
text, and a record as an object with its fields in order. `Fields.read` reads the fields of
a record from a section of a document, in order, and reports the first that is wrong. Other
members of the section are ignored.
-/

namespace BeaconLight

/-- Bytes as hexadecimal text in the given case. -/
def HexCase.render : HexCase → List UInt8 → String
  | .lower, bytes => Hex.encode bytes
  | .checksum, bytes => Address.checksummed bytes

mutual

/-- A value as JSON. -/
def Schema.toJson : (s : Schema) → s.Value → Json
  | .uint width, value => .string (Text.decimal (BitVec.toNat (w := 8 * width) value))
  | .bytes _ style, value => .string (style.render value.val)
  | .byteList _, value => .string (Hex.encode value.val)
  | .byteVectors _ _, value => .array (value.val.map fun bytes => .string (Hex.encode bytes.val))
  | .record fields, value => .object (fields.toMembers value)

/-- The fields of a record as members of an object. -/
def Fields.toMembers : (f : Fields) → f.Values → List (String × Json)
  | .nil, _ => []
  | .cons name schema rest, (value, values) =>
    (name, schema.toJson value) :: rest.toMembers values

end

mutual

/-- Reads a member of a section. -/
def Schema.readMember (name : String) (parent : Section) :
  (s : Schema) → Except RecordError s.Value
  | .uint width => parent.number name (8 * width)
  | .bytes size _ => parent.fixedBytes name size
  | .byteList limit => parent.byteList name limit
  | .byteVectors count size => parent.byteVectors name count size
  | .record fields => do
    let inner ← parent.child name
    fields.read inner

/-- Reads the fields of a record from its section. -/
def Fields.read (f : Fields) (s : Section) : Except RecordError f.Values :=
  match f with
  | .nil => .ok ()
  | .cons name schema rest => do
    let value ← schema.readMember name s
    let values ← rest.read s
    return (value, values)

end

/-- A record as JSON. -/
def Layout.toJson {α : Type} [Layout α] (x : α) : Json :=
  (schema α).toJson (toValues x)

/-- Reads a record from the value at a path. -/
def Layout.ofJson (α : Type) [Layout α] (value : Json) (path : String) :
  Except RecordError α := do
  let inner ← Section.ofJson value path
  let values ← (fields α).read inner
  return ofValues values

/-- Reads a record from a JSON text. -/
def Layout.parse (α : Type) [Layout α] (bytes : List UInt8) : Except RecordError α :=
  match Json.parse bytes with
  | .error fault => .error (.malformed fault)
  | .ok value => ofJson α value ""

end BeaconLight

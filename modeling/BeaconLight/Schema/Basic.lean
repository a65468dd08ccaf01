import BeaconLight.Bytes

/-!
# Schemas of records

A `Schema` describes a kind of value that records are made of: an unsigned integer, a byte
string of fixed or of limited length, a list of byte strings, or a record of named fields.
`Schema.Value` is the type of the values that a schema describes. Both encodings of a record
are defined by recursion on its schema, so a type gets them by giving its schema and the
correspondence between its values and those of the schema, which is the class `Layout`.
-/

namespace BeaconLight

/-- How bytes are written in hexadecimal: in lower case, or in the case of the address
checksum. -/
inductive HexCase
  | lower
  | checksum
  deriving DecidableEq, Repr

mutual

/-- A kind of value that records are made of. -/
inductive Schema
  /-- An unsigned integer of `width` bytes. -/
  | uint (width : Nat)
  /-- A string of `size` bytes. -/
  | bytes (size : Nat) (style : HexCase)
  /-- A string of at most `limit` bytes. -/
  | byteList (limit : Nat)
  /-- A list of `count` strings of `size` bytes each. -/
  | byteVectors (count size : Nat)
  /-- A record of named fields. -/
  | record (fields : Fields)

/-- Named fields of a record, in their order. -/
inductive Fields
  | nil
  | cons (name : String) (schema : Schema) (rest : Fields)

end

mutual

/-- The values that a schema describes. -/
def Schema.Value : Schema → Type
  | .uint width => BitVec (8 * width)
  | .bytes size _ => Bytes size
  | .byteList limit => { bytes : List UInt8 // bytes.length ≤ limit }
  | .byteVectors count size => Sized (Bytes size) count
  | .record fields => fields.Values

/-- The values of the fields of a record, one after another. -/
def Fields.Values : Fields → Type
  | .nil => Unit
  | .cons _ schema rest => schema.Value × rest.Values

end

/-- A field of 32 bytes. -/
abbrev Schema.root : Schema := .bytes 32 .lower

/-- A field of 64 bits. -/
abbrev Schema.uint64 : Schema := .uint 8

/-- The names of fields. -/
def Fields.names : Fields → List String
  | .nil => []
  | .cons name _ rest => name :: rest.names

/-- A type of records: its fields, and the correspondence between its values and the values
of the fields. -/
class Layout (α : Type) where
  fields : Fields
  toValues : α → fields.Values
  ofValues : fields.Values → α
  ofValues_toValues : ∀ x, ofValues (toValues x) = x
  toValues_ofValues : ∀ v, toValues (ofValues v) = v

/-- The schema of a type of records. -/
abbrev Layout.schema (α : Type) [Layout α] : Schema :=
  .record (fields α)

attribute [simp] Layout.ofValues_toValues Layout.toValues_ofValues

end BeaconLight

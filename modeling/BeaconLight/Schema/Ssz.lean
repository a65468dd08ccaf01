import BeaconLight.Schema.Basic
import BeaconLight.Ssz.Parts

/-!
# The SSZ encoding of a schema

`Schema.encode` writes a value as bytes and `Schema.decode` reads it back. An integer is
written least significant byte first, byte strings stand as they are, and a record is laid
out from the encodings of its fields.
-/

namespace BeaconLight

mutual

/-- The number of bytes of the values of a schema, if they all have the same. -/
def Schema.size? : Schema → Option Nat
  | .uint width => some width
  | .bytes size _ => some size
  | .byteList _ => none
  | .byteVectors count size => some (count * size)
  | .record fields => fields.size?

/-- The number of bytes of the values of fields, if they all have the same. -/
def Fields.size? : Fields → Option Nat
  | .nil => some 0
  | .cons _ schema rest =>
    match schema.size?, rest.size? with
    | some first, some others => some (first + others)
    | _, _ => none

end

/-- The sizes of the fields of a record. -/
def Fields.sizes : Fields → List (Option Nat)
  | .nil => []
  | .cons _ schema rest => schema.size? :: rest.sizes

mutual

/-- The bytes of a value. -/
def Schema.encode : (s : Schema) → s.Value → List UInt8
  | .uint width, value => littleEndian width (BitVec.toNat (w := 8 * width) value)
  | .bytes _ _, value => value.val
  | .byteList _, value => value.val
  | .byteVectors _ _, value => value.val.flatMap Subtype.val
  | .record fields, value => Ssz.assemble (fields.parts value)

/-- The encodings of the fields of a record. -/
def Fields.parts : (f : Fields) → f.Values → List Ssz.Part
  | .nil, _ => []
  | .cons _ schema rest, (value, values) =>
    ⟨schema.size?.isSome, schema.encode value⟩ :: rest.parts values

end

/-- Bytes cut into strings of `size` bytes, `count` of them. -/
def chunks (size : Nat) : (count : Nat) → List UInt8 → Option (Sized (Bytes size) count)
  | 0, [] => some ⟨[], rfl⟩
  | 0, _ :: _ => none
  | count + 1, input => do
    let first ← Sized.ofList? size (input.take size)
    let rest ← chunks size count (input.drop size)
    return ⟨first :: rest.val, by simp [rest.property]⟩

mutual

/-- The value that bytes encode. -/
def Schema.decode : (s : Schema) → List UInt8 → Except Ssz.Error s.Value
  | .uint width, input =>
    if input.length = width then .ok (BitVec.ofNat (8 * width) (ofLittleEndian input))
    else .error (.wrongLength input.length width)
  | .bytes size _, input =>
    match Sized.ofList? size input with
    | some bytes => .ok bytes
    | none => .error (.wrongLength input.length size)
  | .byteList limit, input =>
    if h : input.length ≤ limit then .ok ⟨input, h⟩
    else .error (.tooManyBytes input.length limit)
  | .byteVectors count size, input =>
    match chunks size count input with
    | some elements => .ok elements
    | none => .error (.wrongLength input.length (count * size))
  | .record fields, input => do
    let slices ← Ssz.split fields.sizes input
    fields.decodeEach slices

/-- The values that the slices of a record encode, one slice for each field. -/
def Fields.decodeEach : (f : Fields) → List (List UInt8) → Except Ssz.Error f.Values
  | .nil, _ => .ok ()
  | .cons _ schema rest, slices => do
    let value ← schema.decode (slices.headD [])
    let values ← rest.decodeEach slices.tail
    return (value, values)

end

/-- The bytes of a record. -/
def Layout.encode {α : Type} [Layout α] (x : α) : List UInt8 :=
  (schema α).encode (toValues x)

/-- The record that bytes encode. -/
def Layout.decode (α : Type) [Layout α] (input : List UInt8) : Except Ssz.Error α :=
  ((schema α).decode input).map ofValues

end BeaconLight

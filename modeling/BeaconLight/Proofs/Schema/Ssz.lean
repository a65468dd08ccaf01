import BeaconLight.Proofs.Ssz.Parts
import BeaconLight.Schema.Ssz

/-!
# The two directions of the SSZ encoding

`Schema.decode` and `Schema.encode` are inverse to each other on the values of every schema
whose encodings are short enough for the offsets in them. `Schema.least` and `Schema.most`
bound the number of bytes of the encodings.
-/

namespace BeaconLight

/-! ### Sizes -/

mutual

/-- The least number of bytes of a value. -/
def Schema.least : Schema → Nat
  | .uint width => width
  | .bytes size _ => size
  | .byteList _ => 0
  | .byteVectors count size => count * size
  | .record fields => fields.least

/-- The least number of bytes of the fields of a record, with their offsets. -/
def Fields.least : Fields → Nat
  | .nil => 0
  | .cons _ schema rest =>
    (if schema.size?.isSome then 0 else Ssz.offsetSize) + schema.least + rest.least

end

mutual

/-- The greatest number of bytes of a value. -/
def Schema.most : Schema → Nat
  | .uint width => width
  | .bytes size _ => size
  | .byteList limit => limit
  | .byteVectors count size => count * size
  | .record fields => fields.most

/-- The greatest number of bytes of the fields of a record, with their offsets. -/
def Fields.most : Fields → Nat
  | .nil => 0
  | .cons _ schema rest =>
    (if schema.size?.isSome then 0 else Ssz.offsetSize) + schema.most + rest.most

end

/-- The size of a record is the total of the sizes of its fields. -/
theorem Fields.size?_eq_totalSize? (f : Fields) :
  f.size? = Ssz.totalSize? f.sizes
  := by
  match f with
  | .nil => rfl
  | .cons _ schema rest =>
    rw [Fields.size?, Fields.sizes, rest.size?_eq_totalSize?]
    cases schema.size? with
    | none => rfl
    | some n => cases h : Ssz.totalSize? rest.sizes <;> simp [Ssz.totalSize?, h]

theorem length_flatMap_val {size : Nat} (xs : List (Bytes size)) :
  (xs.flatMap Subtype.val).length = xs.length * size
  := by
  induction xs with
  | nil => simp
  | cons x rest ih =>
    rw [List.flatMap_cons, List.length_append, ih, x.property, List.length_cons, Nat.add_mul]
    omega

mutual

/-- The values of a schema of known size have that size. -/
theorem Schema.length_encode :
  (s : Schema) → (v : s.Value) → ∀ n ∈ s.size?, (s.encode v).length = n
  | .uint width, v, _, rfl => length_littleEndian width _
  | .bytes _ _, v, _, rfl => v.property
  | .byteVectors count size, v, _, rfl => by
    rw [Schema.encode, length_flatMap_val, v.property]
  | .record f, v, n, h => by
    have hfits := f.fits_parts v
    rw [Schema.size?, f.size?_eq_totalSize?, Ssz.totalSize?_of_fits hfits] at h
    split at h
    case isTrue hall =>
      cases h
      rw [Schema.encode, Ssz.length_assemble, Ssz.tails_eq_nil hall]
      rfl
    case isFalse => cases h

theorem Fields.fits_parts :
  (f : Fields) → (v : f.Values) → List.Forall₂ Ssz.Part.Fits (f.parts v) f.sizes
  | .nil, _ => .nil
  | .cons _ schema rest, (value, values) =>
    .cons ⟨rfl, schema.length_encode value⟩ (rest.fits_parts values)

end

mutual

/-- A value takes at least the least and at most the greatest number of bytes of its
schema. -/
theorem Schema.length_encode_mem :
  (s : Schema) → (v : s.Value) →
    s.least ≤ (s.encode v).length ∧ (s.encode v).length ≤ s.most
  | .uint width, v => by
    rw [Schema.encode, length_littleEndian]
    exact ⟨Nat.le_refl _, Nat.le_refl _⟩
  | .bytes _ _, v => ⟨Nat.le_of_eq v.property.symm, Nat.le_of_eq v.property⟩
  | .byteList limit, v => ⟨Nat.zero_le _, v.property⟩
  | .byteVectors count size, v => by
    rw [Schema.encode, length_flatMap_val, v.property]
    exact ⟨Nat.le_refl _, Nat.le_refl _⟩
  | .record f, v => f.length_parts_mem v

/-- A record takes at least the least and at most the greatest number of bytes of its
fields. -/
theorem Fields.length_parts_mem :
  (f : Fields) → (v : f.Values) →
    f.least ≤ (Ssz.assemble (f.parts v)).length ∧ (Ssz.assemble (f.parts v)).length ≤ f.most
  | .nil, _ => ⟨Nat.le_refl _, Nat.le_refl _⟩
  | .cons _ schema rest, (value, values) => by
    have hvalue := schema.length_encode_mem value
    have hrest := rest.length_parts_mem values
    rw [Ssz.length_assemble] at hrest ⊢
    rw [Fields.least, Fields.most, Fields.parts, Ssz.headsSize, Ssz.Part.headSize, Ssz.tails]
    dsimp only
    split
    · omega
    · rw [List.length_append]
      omega

end

/-! ### Decoding what was encoded, and encoding what was decoded -/

/-- Bytes are cut into strings exactly when they are these strings one after another. -/
theorem chunks_eq_some_iff
    {size count : Nat} {input : List UInt8} {xs : Sized (Bytes size) count} :
  chunks size count input = some xs ↔ xs.val.flatMap Subtype.val = input
  := by
  induction count generalizing input with
  | zero =>
    obtain ⟨xs, hxs⟩ := xs
    obtain rfl := List.length_eq_zero_iff.mp hxs
    cases input with
    | nil => simp [chunks]
    | cons byte rest => simp [chunks]
  | succ count ih =>
    obtain ⟨_ | ⟨x, rest⟩, hxs⟩ := xs
    · cases hxs
    · have hrest : rest.length = count := Nat.succ.inj hxs
      simp only [chunks, Option.bind_eq_bind, Option.bind_eq_some_iff, Sized.ofList?_eq_some_iff]
      constructor
      · rintro ⟨first, hfirst, others, hothers, heq⟩
        obtain ⟨rfl, rfl⟩ := List.cons.inj (Subtype.mk.inj (Option.some.inj heq))
        rw [List.flatMap_cons, ← hfirst, ih.mp hothers, List.take_append_drop]
      · intro h
        rw [List.flatMap_cons] at h
        subst h
        refine ⟨x, List.take_left' x.property, ⟨rest, hrest⟩, ?_, rfl⟩
        rw [ih, List.drop_left' x.property]

/-- An integer is decoded from its bytes and from nothing else. -/
theorem Schema.decode_uint_eq_ok_iff {width : Nat} {input : List UInt8} {v : BitVec (8 * width)} :
  (Schema.uint width).decode input = .ok v ↔ littleEndian width v.toNat = input
  := by
  show (if input.length = width then .ok (BitVec.ofNat (8 * width) (ofLittleEndian input))
    else .error (.wrongLength input.length width) : Except Ssz.Error _) = .ok v ↔ _
  have hpow : 256 ^ width = 2 ^ (8 * width) := by rw [Nat.pow_mul]
  constructor
  · intro h
    split at h
    case isTrue hlength =>
      cases h
      have hbound := ofLittleEndian_lt input
      rw [hlength, hpow] at hbound
      rw [BitVec.toNat_ofNat, Nat.mod_eq_of_lt hbound]
      nth_rewrite 1 [← hlength]
      apply littleEndian_ofLittleEndian
    case isFalse => cases h
  · rintro rfl
    have hv : v.toNat < 256 ^ width := hpow ▸ v.isLt
    rw [if_pos (length_littleEndian width _), ofLittleEndian_littleEndian hv, BitVec.ofNat_toNat,
      BitVec.setWidth_eq]

/-- A string of fixed length is decoded from itself. -/
theorem Schema.decode_bytes_eq_ok_iff
    {size : Nat} {style : HexCase} {input : List UInt8} {v : Bytes size} :
  (Schema.bytes size style).decode input = .ok v ↔ v.val = input
  := by
  rw [eq_comm (a := v.val), ← Sized.ofList?_eq_some_iff]
  unfold Schema.decode
  cases Sized.ofList? size input with
  | none =>
    constructor
    · rintro ⟨⟩
    · rintro ⟨⟩
  | some xs =>
    constructor
    · intro h
      exact congrArg some (Except.ok.inj h)
    · rintro ⟨⟩
      rfl

/-- A string of limited length is decoded from itself. -/
theorem Schema.decode_byteList_eq_ok_iff
    {limit : Nat} {input : List UInt8} {v : { bytes : List UInt8 // bytes.length ≤ limit }} :
  (Schema.byteList limit).decode input = .ok v ↔ v.val = input
  := by
  show (if h : input.length ≤ limit then .ok ⟨input, h⟩
    else .error (.tooManyBytes input.length limit) : Except Ssz.Error _) = .ok v ↔ _
  constructor
  · intro h
    split at h
    · cases h
      rfl
    · cases h
  · rintro rfl
    rw [dif_pos v.property]

/-- A list of strings is decoded from these strings one after another. -/
theorem Schema.decode_byteVectors_eq_ok_iff
    {count size : Nat} {input : List UInt8} {v : Sized (Bytes size) count} :
  (Schema.byteVectors count size).decode input = .ok v ↔ v.val.flatMap Subtype.val = input
  := by
  rw [← chunks_eq_some_iff]
  unfold Schema.decode
  cases chunks size count input with
  | none =>
    constructor
    · rintro ⟨⟩
    · rintro ⟨⟩
  | some elements =>
    constructor
    · intro h
      exact congrArg some (Except.ok.inj h)
    · rintro ⟨⟩
      rfl

theorem Schema.decode_record_eq_ok_iff {f : Fields} {input : List UInt8} {v : f.Values} :
  (Schema.record f).decode input = .ok v
    ↔ ∃ slices, Ssz.split f.sizes input = .ok slices ∧ f.decodeEach slices = .ok v
  := Except.bind_eq_ok_iff

/-- Slices are decoded when the first is and the others are. -/
theorem Fields.decodeEach_cons_eq_ok_iff
    {name : String} {schema : Schema} {rest : Fields} {slices : List (List UInt8)}
    {value : schema.Value} {values : rest.Values} :
  (Fields.cons name schema rest).decodeEach slices = .ok (value, values)
    ↔ schema.decode (slices.headD []) = .ok value ∧ rest.decodeEach slices.tail = .ok values
  := by
  show (do
    let value ← schema.decode (slices.headD [])
    let values ← rest.decodeEach slices.tail
    return (value, values)) = Except.ok (value, values) ↔ _
  rw [Except.bind_eq_ok_iff]
  constructor
  · rintro ⟨value', hvalue, h⟩
    obtain ⟨values', hvalues, heq⟩ := Except.bind_eq_ok_iff.mp h
    obtain ⟨rfl, rfl⟩ := Prod.mk.inj (Except.ok.inj heq)
    exact ⟨hvalue, hvalues⟩
  · rintro ⟨hvalue, hvalues⟩
    refine ⟨value, hvalue, ?_⟩
    rw [hvalues]
    rfl

mutual

/-- An encoded value is decoded again when its offsets fit. -/
theorem Schema.decode_encode :
  (s : Schema) → (v : s.Value) → s.most < 256 ^ Ssz.offsetSize → s.decode (s.encode v) = .ok v
  | .uint _, _, _ => Schema.decode_uint_eq_ok_iff.mpr rfl
  | .bytes _ _, _, _ => Schema.decode_bytes_eq_ok_iff.mpr rfl
  | .byteList _, _, _ => Schema.decode_byteList_eq_ok_iff.mpr rfl
  | .byteVectors _ _, _, _ => Schema.decode_byteVectors_eq_ok_iff.mpr rfl
  | .record f, v, h => by
    have hlength := (f.length_parts_mem v).2
    rw [Schema.most] at h
    apply Schema.decode_record_eq_ok_iff.mpr
    exact ⟨_, Ssz.split_assemble (f.fits_parts v) (by omega), f.decodeEach_parts v h⟩

/-- The fields of a record are decoded again from their encodings. -/
theorem Fields.decodeEach_parts :
  (f : Fields) → (v : f.Values) → f.most < 256 ^ Ssz.offsetSize →
    f.decodeEach ((f.parts v).map Ssz.Part.bytes) = .ok v
  | .nil, _, _ => rfl
  | .cons _ schema rest, (value, values), h => by
    rw [Fields.most] at h
    apply Fields.decodeEach_cons_eq_ok_iff.mpr
    constructor
    · apply schema.decode_encode value
      omega
    · apply rest.decodeEach_parts values
      omega

end

mutual

/-- What is decoded into a value is its encoding. -/
theorem Schema.encode_of_decode :
  (s : Schema) → (input : List UInt8) → (v : s.Value) → s.decode input = .ok v →
    s.encode v = input
  | .uint _, _, _, h => Schema.decode_uint_eq_ok_iff.mp h
  | .bytes _ _, _, _, h => Schema.decode_bytes_eq_ok_iff.mp h
  | .byteList _, _, _, h => Schema.decode_byteList_eq_ok_iff.mp h
  | .byteVectors _ _, _, _, h => Schema.decode_byteVectors_eq_ok_iff.mp h
  | .record f, _, v, h => by
    obtain ⟨slices, hsplit, hdecode⟩ := Schema.decode_record_eq_ok_iff.mp h
    obtain ⟨parts, hfits, rfl, rfl⟩ := Ssz.assemble_of_split hsplit
    rw [Schema.encode, f.parts_of_decodeEach parts v hfits hdecode]

/-- What the fields of a record are decoded from are their encodings. -/
theorem Fields.parts_of_decodeEach :
  (f : Fields) → (parts : List Ssz.Part) → (v : f.Values) →
    List.Forall₂ Ssz.Part.Fits parts f.sizes →
    f.decodeEach (parts.map Ssz.Part.bytes) = .ok v → f.parts v = parts
  | .nil, [], _, _, _ => rfl
  | .cons _ schema rest, p :: parts, (value, values), hfits, h => by
    obtain ⟨⟨hfixed, -⟩, hparts⟩ := List.forall₂_cons.mp hfits
    obtain ⟨hvalue, hvalues⟩ := Fields.decodeEach_cons_eq_ok_iff.mp h
    rw [Fields.parts, schema.encode_of_decode p.bytes value hvalue,
      rest.parts_of_decodeEach parts values hparts hvalues, ← hfixed]

end

/-- A value is decoded from its encoding and from nothing else. -/
theorem Schema.decode_eq_ok_iff
    {s : Schema} {input : List UInt8} {v : s.Value} (h : s.most < 256 ^ Ssz.offsetSize) :
  s.decode input = .ok v ↔ s.encode v = input
  := by
  constructor
  · apply s.encode_of_decode
  · rintro rfl
    apply s.decode_encode v h

/-- A record is decoded from its encoding and from nothing else. -/
theorem Layout.decode_eq_ok_iff {α : Type} [Layout α] {input : List UInt8} {x : α}
    (h : (schema α).most < 256 ^ Ssz.offsetSize) :
  decode α input = .ok x ↔ encode x = input
  := by
  constructor
  · intro hdecode
    obtain ⟨v, hv, rfl⟩ := Except.map_eq_ok_iff.mp hdecode
    rw [encode, toValues_ofValues]
    apply (Schema.decode_eq_ok_iff h).mp hv
  · intro hencode
    apply Except.map_eq_ok_iff.mpr
    exact ⟨toValues x, (Schema.decode_eq_ok_iff h).mpr hencode, ofValues_toValues x⟩

end BeaconLight

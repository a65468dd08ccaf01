import BeaconLight.Proofs.Schema.Ssz

/-!
# Schemas that no bytes fit both of

Two schemas are `Apart` when no bytes are decoded by both. That is so when the encodings of the
one are shorter than those of the other, when two records are cut up in the same way and a
field of the one is apart from that field of the other, and when the first offset stands at the
same place in two records and has to be another number.
-/

namespace BeaconLight

/-- No bytes are decoded by both schemas. -/
def Schema.Apart (s t : Schema) : Prop :=
  ∀ input v w, s.decode input = .ok v → t.decode input ≠ .ok w

/-- Fields at the same place in two records are apart. -/
inductive Fields.Apart : Fields → Fields → Prop
  | first {name name' : String} {s t : Schema} {f g : Fields} (h : s.Apart t) :
    Fields.Apart (.cons name s f) (.cons name' t g)
  | rest {name name' : String} {s t : Schema} {f g : Fields} (h : Fields.Apart f g) :
    Fields.Apart (.cons name s f) (.cons name' t g)

theorem Schema.Apart.symm {s t : Schema} (h : s.Apart t) :
  t.Apart s
  := by
  intro input w v hw hv
  apply h input v w hv hw

/-- Schemas are apart when the encodings of the one are shorter than those of the other. -/
theorem Schema.apart_of_most_lt {s t : Schema} (h : s.most < t.least) :
  s.Apart t
  := by
  intro input v w hv hw
  have hs := (s.length_encode_mem v).2
  have ht := (t.length_encode_mem w).1
  rw [s.encode_of_decode input v hv] at hs
  rw [t.encode_of_decode input w hw] at ht
  omega

/-- Slices are not decoded by both of two records of which some fields are apart. -/
theorem Fields.Apart.decodeEach_ne {f g : Fields} (h : f.Apart g) :
  ∀ slices v w, f.decodeEach slices = .ok v → g.decodeEach slices ≠ .ok w
  := by
  induction h with
  | first h =>
    rintro slices ⟨v, vs⟩ ⟨w, ws⟩ hv hw
    apply h _ v w (decodeEach_cons_eq_ok_iff.mp hv).1 (decodeEach_cons_eq_ok_iff.mp hw).1
  | rest _ ih =>
    rintro slices ⟨v, vs⟩ ⟨w, ws⟩ hv hw
    apply ih _ vs ws (decodeEach_cons_eq_ok_iff.mp hv).2 (decodeEach_cons_eq_ok_iff.mp hw).2

/-- Records are apart when they are cut up in the same way and some fields are apart. -/
theorem Schema.apart_of_fields {f g : Fields} (hsizes : f.sizes = g.sizes) (h : f.Apart g) :
  (Schema.record f).Apart (.record g)
  := by
  intro input v w hv hw
  obtain ⟨slices, hsplit, hdecode⟩ := decode_record_eq_ok_iff.mp hv
  obtain ⟨slices', hsplit', hdecode'⟩ := decode_record_eq_ok_iff.mp hw
  rw [← hsizes, hsplit] at hsplit'
  obtain rfl := Except.ok.inj hsplit'
  apply h.decodeEach_ne slices v w hdecode hdecode'

/-- Records are apart when their first offsets stand at the same place and the numbers of bytes
in front of their variable parts are not written alike. -/
theorem Schema.apart_of_offset {f g : Fields} (place : Nat)
    (hf : Ssz.offsetPlace? f.sizes = some place) (hg : Ssz.offsetPlace? g.sizes = some place)
    (h : littleEndian Ssz.offsetSize (Ssz.headTotal f.sizes)
      ≠ littleEndian Ssz.offsetSize (Ssz.headTotal g.sizes)) :
  (Schema.record f).Apart (.record g)
  := by
  intro input v w hv hw
  obtain ⟨slices, hsplit, -⟩ := decode_record_eq_ok_iff.mp hv
  obtain ⟨slices', hsplit', -⟩ := decode_record_eq_ok_iff.mp hw
  apply h
  rw [← Ssz.offset_of_split hsplit hf, ← Ssz.offset_of_split hsplit' hg]

end BeaconLight

import BeaconLight.Proofs.Bytes
import BeaconLight.Proofs.Except
import BeaconLight.Response.Chunk

/-!
# Framed bodies

A body is taken apart into chunks exactly when it is the bytes of these chunks one after
another, so a body has one way at most to be taken apart, and every list of chunks whose
lengths can be written comes back from its bytes.
-/

namespace BeaconLight.Chunk

/-- What the chunk's length counts is small enough to be written. -/
def Fits (chunk : Chunk) : Prop :=
  digestSize + chunk.payload.length < 256 ^ lengthSize

/-- The bytes are those of the chunks one after another. -/
def Frames (chunks : List Chunk) (bytes : List UInt8) : Prop :=
  (∀ chunk ∈ chunks, chunk.Fits) ∧ bytes = chunks.flatMap encode

theorem frames_nil_iff {bytes : List UInt8} :
  Frames [] bytes ↔ bytes = []
  := by simp [Frames]

theorem frames_cons_iff {chunk : Chunk} {chunks : List Chunk} {bytes : List UInt8} :
  Frames (chunk :: chunks) bytes ↔
    chunk.Fits ∧ ∃ rest, Frames chunks rest ∧ bytes = chunk.encode ++ rest
  := by
  simp only [Frames, List.forall_mem_cons, List.flatMap_cons]
  constructor
  · rintro ⟨⟨hchunk, hchunks⟩, hbytes⟩
    exact ⟨hchunk, _, ⟨hchunks, rfl⟩, hbytes⟩
  · rintro ⟨hchunk, _, ⟨hchunks, rfl⟩, hbytes⟩
    exact ⟨⟨hchunk, hchunks⟩, hbytes⟩

theorem length_encode (chunk : Chunk) :
  chunk.encode.length = lengthSize + (digestSize + chunk.payload.length)
  := by
  have hdigest : chunk.digest.val.length = digestSize := chunk.digest.property
  rw [encode, List.length_append, List.length_append, length_littleEndian, hdigest]
  omega

theorem ofLittleEndian_take_encode {chunk : Chunk} (h : chunk.Fits) (rest : List UInt8) :
  ofLittleEndian ((chunk.encode ++ rest).take lengthSize) = digestSize + chunk.payload.length
  := by
  rw [encode, List.append_assoc, List.append_assoc, List.take_left' (length_littleEndian _ _)]
  apply ofLittleEndian_littleEndian h

theorem drop_encode (chunk : Chunk) (rest : List UInt8) :
  (chunk.encode ++ rest).drop lengthSize = chunk.digest.val ++ chunk.payload ++ rest
  := by
  rw [encode, List.append_assoc, List.append_assoc, List.append_assoc,
    List.drop_left' (length_littleEndian _ _)]

/-- A chunk in front of other bytes is taken off them. -/
theorem splitFrom_encode_append {chunk : Chunk} (h : chunk.Fits) (index : Nat)
    (rest : List UInt8) :
  splitFrom index (chunk.encode ++ rest) = (splitFrom (index + 1) rest).map (chunk :: ·)
  := by
  have hlength : (chunk.encode ++ rest).length
      = lengthSize + (digestSize + chunk.payload.length) + rest.length := by
    rw [List.length_append, length_encode]
  have hdigest : chunk.digest.val.length = digestSize := chunk.digest.property
  have hframed : (chunk.digest.val ++ chunk.payload).length
      = digestSize + chunk.payload.length := by
    rw [List.length_append, hdigest]
  have hne : chunk.encode ++ rest ≠ [] := by
    intro hnil
    rw [hnil, lengthSize] at hlength
    simp only [List.length_nil] at hlength
    omega
  have hlong : ¬ (chunk.encode ++ rest).length < lengthSize := by omega
  rw [splitFrom, if_neg hne, if_neg hlong]
  dsimp only
  simp only [ofLittleEndian_take_encode h, drop_encode, List.take_left' hframed,
    List.drop_left' hframed, List.take_left' hdigest, List.drop_left' hdigest]
  rw [dif_pos]
  rw [List.length_append, hframed]
  omega

/-- Bytes that are taken apart are empty, or they begin with a chunk and what follows is taken
apart. -/
theorem splitFrom_eq_ok {index : Nat} {bytes : List UInt8} {chunks : List Chunk}
    (h : splitFrom index bytes = .ok chunks) (hne : bytes ≠ []) :
  ∃ chunk rest others, chunk.Fits ∧ bytes = chunk.encode ++ rest ∧
    splitFrom (index + 1) rest = .ok others ∧ chunks = chunk :: others
  := by
  rw [splitFrom, if_neg hne] at h
  dsimp only at h
  split at h
  case isTrue => cases h
  case isFalse hlong =>
    split at h
    case isFalse => cases h
    case isTrue hbounds =>
      obtain ⟨others, hothers, rfl⟩ := Except.map_eq_ok_iff.mp h
      have htake : (bytes.take lengthSize).length = lengthSize := by
        rw [List.length_take]
        omega
      have hcounted : digestSize + (((bytes.drop lengthSize).take
          (ofLittleEndian (bytes.take lengthSize))).drop digestSize).length
          = ofLittleEndian (bytes.take lengthSize) := by
        rw [List.length_drop, List.length_take]
        omega
      refine ⟨_, _, others, ?_, ?_, hothers, rfl⟩
      · have hbound := ofLittleEndian_lt (bytes.take lengthSize)
        rw [htake] at hbound
        rw [Fits, hcounted]
        exact hbound
      · have hlength := littleEndian_ofLittleEndian (bytes.take lengthSize)
        rw [htake] at hlength
        rw [encode, hcounted, hlength]
        dsimp only
        simp only [List.append_assoc]
        rw [← List.append_assoc (List.take digestSize _), List.take_append_drop,
          List.take_append_drop, List.take_append_drop]

/-- Bytes are taken apart exactly into the chunks that they are the bytes of. -/
theorem splitFrom_eq_ok_iff {index : Nat} {bytes : List UInt8} {chunks : List Chunk} :
  splitFrom index bytes = .ok chunks ↔ Frames chunks bytes
  := by
  constructor
  · intro h
    induction chunks generalizing index bytes with
    | nil =>
      apply frames_nil_iff.mpr
      by_contra hne
      obtain ⟨chunk, rest, others, -, -, -, hchunks⟩ := splitFrom_eq_ok h hne
      cases hchunks
    | cons chunk chunks ih =>
      have hne : bytes ≠ [] := by
        rintro rfl
        rw [splitFrom, if_pos rfl] at h
        cases h
      obtain ⟨_, rest, _, hfits, hbytes, hothers, heq⟩ := splitFrom_eq_ok h hne
      cases heq
      apply frames_cons_iff.mpr
      exact ⟨hfits, rest, ih hothers, hbytes⟩
  · intro h
    induction chunks generalizing index bytes with
    | nil =>
      rw [frames_nil_iff.mp h, splitFrom, if_pos rfl]
    | cons chunk chunks ih =>
      obtain ⟨hfits, rest, hrest, rfl⟩ := frames_cons_iff.mp h
      rw [splitFrom_encode_append hfits, ih hrest]
      rfl

/-- A body is taken apart exactly into the chunks that it is the bytes of. -/
theorem split_eq_ok_iff {bytes : List UInt8} {chunks : List Chunk} :
  split bytes = .ok chunks ↔ Frames chunks bytes
  := splitFrom_eq_ok_iff

end BeaconLight.Chunk

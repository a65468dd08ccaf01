import BeaconLight.Proofs.Chain.Fork
import BeaconLight.Proofs.Schema.Apart
import BeaconLight.Record.Versioned

/-!
# Records as SSZ

`Versioned.ofSsz` reads exactly the bytes that `Versioned.toSsz` writes. A kind of records over
a shape of headers has a layout of its own: the lengths keep most of the layouts apart, and the
two shapes with execution payloads are told apart by the first offset in the payload.
-/

namespace BeaconLight

namespace Versioned

/-! ### One encoding for each record -/

theorem most_lt (kind : Kind) (shape : Shape) :
  (Layout.schema (kind.Record shape.Header)).most < 256 ^ Ssz.offsetSize
  := by
  cases kind <;> cases shape <;> decide

variable {kind : Kind}

theorem length_toSsz_lt (x : Versioned kind) :
  x.toSsz.length < 256 ^ Ssz.offsetSize
  := by
  apply Nat.lt_of_le_of_lt _ (most_lt kind x.fork.shape)
  exact ((Layout.schema (kind.Record x.fork.shape.Header)).length_encode_mem _).2

/-- A record is read from its bytes. -/
theorem ofSsz_toSsz (x : Versioned kind) :
  ofSsz kind x.fork.toFork x.toSsz = .ok x
  := by
  have hlight : x.fork.toFork.light? = some x.fork := Fork.light?_eq_some_iff.mpr rfl
  have hdecode := (Layout.decode_eq_ok_iff (x := x.data) (most_lt kind x.fork.shape)).mpr rfl
  rw [ofSsz, hlight]
  dsimp only
  rw [toSsz, hdecode]

/-- A record that is read belongs to the fork it is read at, and what it is read from is its
bytes. -/
theorem toSsz_of_ofSsz {fork : Fork} {bytes : List UInt8} {x : Versioned kind}
    (h : ofSsz kind fork bytes = .ok x) :
  x.fork.toFork = fork ∧ bytes = x.toSsz
  := by
  rw [ofSsz] at h
  cases hlight : fork.light? with
  | none =>
    rw [hlight] at h
    cases h
  | some light =>
    rw [hlight] at h
    dsimp only at h
    split at h
    case h_1 data hdata =>
      obtain rfl := Except.ok.inj h
      exact ⟨Fork.light?_eq_some_iff.mp hlight,
        ((Layout.decode_eq_ok_iff (most_lt kind light.shape)).mp hdata).symm⟩
    case h_2 => cases h

/-- A record is read exactly at its fork and from its bytes. -/
theorem ofSsz_eq_ok_iff {fork : Fork} {bytes : List UInt8} {x : Versioned kind} :
  ofSsz kind fork bytes = .ok x ↔ x.fork.toFork = fork ∧ bytes = x.toSsz
  := by
  constructor
  · apply toSsz_of_ofSsz
  · rintro ⟨rfl, rfl⟩
    apply ofSsz_toSsz

/-- A record that is read at a light fork is of that fork. -/
theorem fork_of_ofSsz {fork : LightFork} {bytes : List UInt8} {x : Versioned kind}
    (h : ofSsz kind fork.toFork bytes = .ok x) :
  x.fork = fork
  := LightFork.toFork_injective (toSsz_of_ofSsz h).1

/-- Bytes that are not read at a light fork do not have the layout of the record. -/
theorem badLayout_of_ofSsz {fork : LightFork} {bytes : List UInt8} {e : RecordError}
    (h : ofSsz kind fork.toFork bytes = .error e) :
  ∃ reason, e = .badLayout kind.name reason
  := by
  rw [ofSsz, fork.light?_toFork] at h
  dsimp only at h
  split at h
  · cases h
  · exact ⟨_, (Except.error.inj h).symm⟩

end Versioned

/-! ### One layout for each record -/

/-- The payload headers of the two shapes that have them are apart. -/
theorem payload_apart :
  (Layout.schema CapellaPayload).Apart (Layout.schema DenebPayload)
  := Schema.apart_of_offset 436 (by decide) (by decide) (by decide)

/-- The headers of the two shapes that have a payload are apart. -/
theorem executionHeader_apart :
  (Layout.schema (ExecutionHeader CapellaPayload)).Apart
    (Layout.schema (ExecutionHeader DenebPayload))
  := Schema.apart_of_fields (by decide) (.rest (.first payload_apart))

/-- The records of a kind over the two shapes of headers that have a payload are apart. -/
theorem execution_apart (kind : Kind) :
  (Layout.schema (kind.Record Shape.capella.Header)).Apart
    (Layout.schema (kind.Record Shape.deneb.Header))
  := by
  cases kind with
  | bootstrap => exact Schema.apart_of_fields (by decide) (.first executionHeader_apart)
  | update => exact Schema.apart_of_fields (by decide) (.first executionHeader_apart)
  | finalityUpdate => exact Schema.apart_of_fields (by decide) (.first executionHeader_apart)
  | optimisticUpdate => exact Schema.apart_of_fields (by decide) (.first executionHeader_apart)

/-- The lengths of the records of one kind over one shape of headers are all less than those of
another, except for the two shapes of the same kind that have a payload. -/
theorem most_lt_least {kind kind' : Kind} {shape shape' : Shape}
    (h : kind ≠ kind' ∨ shape = .altair ∧ shape' ≠ .altair) :
  (Layout.schema (kind.Record shape.Header)).most
      < (Layout.schema (kind'.Record shape'.Header)).least
    ∨ (Layout.schema (kind'.Record shape'.Header)).most
      < (Layout.schema (kind.Record shape.Header)).least
  := by
  revert h
  cases kind <;> cases kind' <;> cases shape <;> cases shape' <;> decide

/-- Records whose lengths keep them apart are apart. -/
theorem apart_of_length {kind kind' : Kind} {shape shape' : Shape}
    (h : kind ≠ kind' ∨ shape = .altair ∧ shape' ≠ .altair) :
  (Layout.schema (kind.Record shape.Header)).Apart (Layout.schema (kind'.Record shape'.Header))
  := by
  rcases most_lt_least h with hlt | hlt
  · apply Schema.apart_of_most_lt hlt
  · apply Schema.Apart.symm
    apply Schema.apart_of_most_lt hlt

/-- Records of different kinds or over different shapes of headers are apart. -/
theorem record_apart {kind kind' : Kind} {shape shape' : Shape}
    (h : kind ≠ kind' ∨ shape ≠ shape') :
  (Layout.schema (kind.Record shape.Header)).Apart (Layout.schema (kind'.Record shape'.Header))
  := by
  by_cases hkind : kind = kind'
  · subst hkind
    have hshape : shape ≠ shape' := h.resolve_left (fun hne => hne rfl)
    by_cases haltair : shape = .altair
    · apply apart_of_length
      right
      exact ⟨haltair, fun haltair' => hshape (haltair.trans haltair'.symm)⟩
    · by_cases haltair' : shape' = .altair
      · apply Schema.Apart.symm
        apply apart_of_length
        right
        exact ⟨haltair', haltair⟩
      · cases shape with
        | altair => contradiction
        | capella =>
          cases shape' with
          | altair | capella => contradiction
          | deneb => apply execution_apart
        | deneb =>
          cases shape' with
          | altair | deneb => contradiction
          | capella =>
            apply Schema.Apart.symm
            apply execution_apart
  · apply apart_of_length
    left
    exact hkind

namespace Versioned

/-- Bytes that are read as records of two kinds at two forks have the same kind, and the forks
have the same shape of headers. -/
theorem layout_unique
    {kind kind' : Kind} {fork fork' : Fork} {bytes : List UInt8}
    {x : Versioned kind} {x' : Versioned kind'}
    (h : ofSsz kind fork bytes = .ok x) (h' : ofSsz kind' fork' bytes = .ok x') :
  kind = kind' ∧ ∃ shape, fork.light?.map LightFork.shape = some shape ∧
    fork'.light?.map LightFork.shape = some shape
  := by
  obtain ⟨hfork, rfl⟩ := toSsz_of_ofSsz h
  obtain ⟨hfork', hbytes⟩ := toSsz_of_ofSsz h'
  have hsame : kind = kind' ∧ x.fork.shape = x'.fork.shape := by
    by_contra hne
    have hapart : kind ≠ kind' ∨ x.fork.shape ≠ x'.fork.shape := by
      rw [← not_and_or]
      exact hne
    apply record_apart hapart x.toSsz
    · apply Schema.decode_encode _ _ (most_lt kind x.fork.shape)
    · rw [hbytes]
      apply Schema.decode_encode _ _ (most_lt kind' x'.fork.shape)
  obtain ⟨hkind, hshape⟩ := hsame
  refine ⟨hkind, x.fork.shape, ?_, ?_⟩
  · rw [Fork.light?_eq_some_iff.mpr hfork]
    rfl
  · rw [Fork.light?_eq_some_iff.mpr hfork', hshape]
    rfl

/-- A string of zeros. -/
def zeros (n : Nat) : Bytes n :=
  ⟨List.replicate n 0, List.length_replicate⟩

/-- The optimistic update of the first shape whose bytes are all zero. -/
def zeroUpdate : OptimisticUpdate AltairHeader :=
  ⟨⟨⟨0, 0, zeros 32, zeros 32, zeros 32⟩⟩, ⟨zeros 64, zeros 96⟩, 0⟩

/-- The zeros of an optimistic update are read at the two forks of its shape. -/
theorem layout_unique_zeros :
  ofSsz .optimisticUpdate .altair (List.replicate 280 0) = .ok ⟨.altair, zeroUpdate⟩ ∧
  ofSsz .optimisticUpdate .bellatrix (List.replicate 280 0) = .ok ⟨.bellatrix, zeroUpdate⟩ ∧
  Kind.optimisticUpdate = Kind.optimisticUpdate ∧
  ∃ shape, Fork.altair.light?.map LightFork.shape = some shape ∧
    Fork.bellatrix.light?.map LightFork.shape = some shape
  := by
  have haltair : ofSsz .optimisticUpdate .altair (List.replicate 280 0)
      = .ok ⟨.altair, zeroUpdate⟩ := by
    decide +kernel
  have hbellatrix : ofSsz .optimisticUpdate .bellatrix (List.replicate 280 0)
      = .ok ⟨.bellatrix, zeroUpdate⟩ := by
    decide +kernel
  exact ⟨haltair, hbellatrix, layout_unique haltair hbellatrix⟩

end Versioned

end BeaconLight

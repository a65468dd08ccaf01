import BeaconLight.Proofs.Record.Json
import BeaconLight.Proofs.Record.Ssz
import BeaconLight.Proofs.Response.Chunk
import BeaconLight.Proofs.Response.Decoding

/-!
# Lists of updates

A response with a list of updates is decoded whole or not at all. `AllOrFirst` says it for
elements of either encoding: all of them are read and the records are given in order, or the
first element that is not read is reported under its index. In SSZ that holds of the chunks of a
body, and a body that is no sequence of chunks is reported as such whatever its payloads are.
-/

theorem List.Forall₂.exists_right {α β : Type} {R : α → β → Prop} {xs : List α} {ys : List β}
    (h : List.Forall₂ R xs ys) :
  ∀ x ∈ xs, ∃ y, R x y
  := by
  intro x hx
  obtain ⟨i, hi, rfl⟩ := List.getElem_of_mem hx
  exact ⟨_, h.get hi (h.length_eq ▸ hi)⟩

theorem List.Forall₂.exists_left {α β : Type} {R : α → β → Prop} {xs : List α} {ys : List β}
    (h : List.Forall₂ R xs ys) :
  ∀ y ∈ ys, ∃ x, R x y
  := List.Forall₂.exists_right (R := fun y x => R x y) h.flip

namespace BeaconLight

namespace RawResponse

variable {raw : RawResponse} {fork : LightFork}

/-- The result of decoding a list of elements at a fork. `Reads` says which record an element
is read as, and `Blames` what is reported about the element of an index. -/
structure AllOrFirst {α : Type} (fork : LightFork) (elements : List α)
    (Reads : α → Versioned .update → Prop) (Blames : Nat → α → RecordError → Prop)
    (result : Except ResponseError (Response (List (Versioned .update)))) : Prop where
  /-- The list is decoded exactly when each element is read. -/
  succeeds_iff : (∃ response, result = .ok response) ↔ ∀ a ∈ elements, ∃ x, Reads a x
  /-- The records are those of the elements, one for each and in order. -/
  inOrder : ∀ response, result = .ok response → List.Forall₂ Reads elements response.data
  /-- The records are of the fork. -/
  ofFork : ∀ response, result = .ok response → ∀ x ∈ response.data, x.fork = fork
  /-- A failure is about the first element that is not read. -/
  first : ∀ e, result = .error e →
    ∃ i a cause, elements[i]? = some a ∧ (∀ x, ¬ Reads a x) ∧
      (∀ j < i, ∀ b, elements[j]? = some b → ∃ x, Reads b x) ∧
      Blames i a cause ∧ e = .badRecord cause

/-- The data of the result are the records that the elements are read as, where each is read as
at most one. -/
theorem AllOrFirst.data_iff {α : Type} {elements : List α}
    {Reads : α → Versioned .update → Prop} {Blames : Nat → α → RecordError → Prop}
    {result : Except ResponseError (Response (List (Versioned .update)))}
    (h : AllOrFirst fork elements Reads Blames result) (hunique : Relator.RightUnique Reads)
    {records : List (Versioned .update)} :
  (∃ response, result = .ok response ∧ response.data = records) ↔
    List.Forall₂ Reads elements records
  := by
  constructor
  · rintro ⟨response, hresponse, rfl⟩
    apply h.inOrder response hresponse
  · intro hrecords
    obtain ⟨response, hresponse⟩ := h.succeeds_iff.mpr hrecords.exists_right
    refine ⟨response, hresponse, ?_⟩
    apply hunique.forall₂ (h.inOrder response hresponse) hrecords

/-- Elements that are read one after another, each with its index, are decoded all or up to the
first that is not read. -/
theorem allOrFirst_mapM {α : Type} {elements : List α}
    {Reads : α → Versioned .update → Prop} {Blames : Nat → α → RecordError → Prop}
    {read : α × Nat → Except RecordError (Versioned .update)} (metadata : Json.Members)
    (hreads : ∀ a i x, read (a, i) = .ok x ↔ Reads a x)
    (hblames : ∀ a i e, read (a, i) = .error e → Blames i a e)
    (hfork : ∀ a x, Reads a x → x.fork = fork) :
  AllOrFirst fork elements Reads Blames
    ((liftRecord (elements.zipIdx.mapM read)).map fun records => respond fork records metadata)
  := by
  cases hresult : elements.zipIdx.mapM read with
  | ok records =>
    have hall := (Except.mapM_zipIdx_eq_ok_iff hreads).mp hresult
    constructor
    · constructor
      · intro _
        apply hall.exists_right
      · intro _
        exact ⟨_, rfl⟩
    · rintro _ ⟨⟩
      apply hall
    · rintro _ ⟨⟩ x hx
      obtain ⟨a, ha⟩ := hall.exists_left x hx
      apply hfork a x ha
    · rintro _ ⟨⟩
  | error cause =>
    obtain ⟨i, a, ha, hread, hbefore⟩ := Except.mapM_zipIdx_eq_error_iff.mp hresult
    rw [Nat.zero_add] at hread
    have hnone (x : Versioned .update) : ¬ Reads a x := by
      intro hx
      rw [(hreads a i x).mpr hx] at hread
      cases hread
    constructor
    · constructor
      · rintro ⟨_, ⟨⟩⟩
      · intro h
        obtain ⟨x, hx⟩ := h a (List.mem_of_getElem? ha)
        exact absurd hx (hnone x)
    · rintro _ ⟨⟩
    · rintro _ ⟨⟩
    · rintro _ ⟨⟩
      refine ⟨i, a, cause, ha, hnone, ?_, hblames a i cause hread, rfl⟩
      intro j hj b hb
      obtain ⟨x, hx⟩ := hbefore j hj b hb
      exact ⟨x, (hreads b _ x).mp hx⟩

/-- A JSON list of updates is read whole, or the first element that is not read by itself is
reported within its path. -/
theorem allOrFirst_of_json {members : Json.Members} {items : List Json}
    (h : raw.negotiate = .ok (fork, .json members))
    (hdata : Json.find? Response.dataField members = some (.array items)) :
  AllOrFirst fork items
    (fun item x => Versioned.ofJson .update fork.toFork item "" = .ok x)
    (fun i item cause =>
      Versioned.ofJson .update fork.toFork item (Section.element Response.dataField i)
        = .error cause ∧ cause.IsWithin (Section.element Response.dataField i))
    raw.decodeUpdates
  := by
  rw [decodeUpdates_of_json h hdata, readElements_eq_mapM]
  apply allOrFirst_mapM
  · intro item i x
    apply Versioned.ofJson_eq_ok_iff_of_path
  · intro item i e he
    exact ⟨he, Versioned.isWithin_of_ofJson (Section.element_ne_empty _ _) he⟩
  · intro item x hx
    apply Versioned.fork_of_ofJson hx

/-- A sequence of chunks is read whole, or the first chunk whose payload is not read is named in
front of what is wrong with it. -/
theorem allOrFirst_of_ssz {bytes : List UInt8} {chunks : List Chunk}
    (h : raw.negotiate = .ok (fork, .ssz bytes)) (hframes : Chunk.Frames chunks bytes) :
  AllOrFirst fork chunks
    (fun chunk x => Versioned.ofSsz .update fork.toFork chunk.payload = .ok x)
    (fun i chunk cause => ∃ reason,
      Versioned.ofSsz .update fork.toFork chunk.payload
        = .error (.badLayout Kind.update.name reason) ∧
      cause = .badLayout Kind.update.name ("chunk " ++ Text.decimal i ++ ": " ++ reason))
    raw.decodeUpdates
  := by
  rw [decodeUpdates_of_ssz h, Chunk.split_eq_ok_iff.mpr hframes]
  dsimp only
  rw [readChunks_eq_mapM]
  apply allOrFirst_mapM
  · intro chunk i x
    apply Except.mapError_eq_ok_iff
  · intro chunk i e he
    obtain ⟨cause, hcause, rfl⟩ := Except.mapError_eq_error_iff.mp he
    obtain ⟨reason, rfl⟩ := Versioned.badLayout_of_ofSsz hcause
    exact ⟨reason, hcause, rfl⟩
  · intro chunk x hx
    apply Versioned.fork_of_ofSsz hx

/-- A body that is no sequence of chunks is reported as such. -/
theorem decodeUpdates_of_not_frames {bytes : List UInt8}
    (h : raw.negotiate = .ok (fork, .ssz bytes)) (hframes : ¬ ∃ chunks, Chunk.Frames chunks bytes) :
  ∃ fault, Chunk.split bytes = .error fault ∧
    raw.decodeUpdates = .error (.badRecord (.badLayout Kind.update.name fault.message))
  := by
  rw [decodeUpdates_of_ssz h]
  cases hsplit : Chunk.split bytes with
  | error fault => exact ⟨fault, rfl, rfl⟩
  | ok chunks => exact absurd ⟨chunks, Chunk.split_eq_ok_iff.mp hsplit⟩ hframes

/-- A response that negotiates to a fork is decoded whole or not at all. In JSON an element counts
as read when it is read by itself, and the error is that of the first element that is not, within
its path. In SSZ a body that is no sequence of chunks is reported as such, and of the chunks of any
other the first whose payload is not read is named in front of what is wrong with it. -/
theorem decodeUpdates_allOrFirst (raw : RawResponse) (fork : LightFork) :
  (∀ members items, raw.negotiate = .ok (fork, .json members) →
    Json.find? Response.dataField members = some (.array items) →
    AllOrFirst fork items
      (fun item x => Versioned.ofJson .update fork.toFork item "" = .ok x)
      (fun i item cause =>
        Versioned.ofJson .update fork.toFork item (Section.element Response.dataField i)
          = .error cause ∧ cause.IsWithin (Section.element Response.dataField i))
      raw.decodeUpdates) ∧
  (∀ bytes, raw.negotiate = .ok (fork, .ssz bytes) →
    ((¬ ∃ chunks, Chunk.Frames chunks bytes) →
      ∃ fault, Chunk.split bytes = .error fault ∧
        raw.decodeUpdates
          = .error (.badRecord (.badLayout Kind.update.name fault.message))) ∧
    ∀ chunks, Chunk.Frames chunks bytes →
      AllOrFirst fork chunks
        (fun chunk x => Versioned.ofSsz .update fork.toFork chunk.payload = .ok x)
        (fun i chunk cause => ∃ reason,
          Versioned.ofSsz .update fork.toFork chunk.payload
            = .error (.badLayout Kind.update.name reason) ∧
          cause = .badLayout Kind.update.name ("chunk " ++ Text.decimal i ++ ": " ++ reason))
        raw.decodeUpdates)
  := by
  constructor
  · intro members items hnegotiate hdata
    apply allOrFirst_of_json hnegotiate hdata
  · intro bytes hnegotiate
    constructor
    · apply decodeUpdates_of_not_frames hnegotiate
    · intro chunks hframes
      apply allOrFirst_of_ssz hnegotiate hframes

end RawResponse

end BeaconLight

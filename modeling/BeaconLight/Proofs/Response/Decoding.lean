import BeaconLight.Proofs.Except
import BeaconLight.Proofs.Record.Json
import BeaconLight.Response.Negotiation

/-!
# Decoding after negotiation

When negotiation fails, so does decoding. Otherwise a response is decoded from the fork and the
body that negotiation gives: an SSZ body as it is, and a JSON body from what it has under `data`.
-/

namespace BeaconLight.RawResponse

variable {raw : RawResponse} {kind : Kind} {fork : LightFork}

/-! ### The data of a JSON body -/

/-- The data are what stands under their name, unless that is `null`. -/
theorem takeData_eq_ok_iff {members : Json.Members} {data : Json} :
  takeData members = .ok data ↔
    Json.find? Response.dataField members = some data ∧ data ≠ .null
  := by
  unfold takeData
  split
  · next hfind => simp [hfind]
  · next hfind =>
    simp only [hfind, Option.some_inj, reduceCtorEq, false_iff, not_and, not_not]
    rintro rfl
    rfl
  · next value hnull hfind =>
    rw [hfind, Except.ok.injEq, Option.some_inj]
    constructor
    · rintro rfl
      refine ⟨rfl, ?_⟩
      rintro rfl
      exact hnull rfl
    · rintro ⟨rfl, -⟩
      rfl

theorem takeData_eq_error {members : Json.Members} {e : ResponseError}
    (h : takeData members = .error e) :
  e = .badRecord (.missing Response.dataField)
  := by
  unfold takeData at h
  split at h
  · exact (Except.error.inj h).symm
  · exact (Except.error.inj h).symm
  · cases h

/-! ### One record -/

theorem decodeRecord_of_error {e : ResponseError} (h : raw.negotiate = .error e) :
  raw.decodeRecord kind = .error e
  := by
  rw [decodeRecord, h]
  rfl

/-- The record of an SSZ response is its body. -/
theorem decodeRecord_of_ssz {bytes : List UInt8} (h : raw.negotiate = .ok (fork, .ssz bytes)) :
  raw.decodeRecord kind =
    (liftRecord (Versioned.ofSsz kind fork.toFork bytes)).map fun record =>
      respond fork record raw.metadata
  := by
  rw [decodeRecord, h]
  simp only [bind, Except.bind]
  cases liftRecord (Versioned.ofSsz kind fork.toFork bytes)
  all_goals rfl

/-- The record of a JSON response is what it has for data. -/
theorem decodeRecord_of_json {members : Json.Members}
    (h : raw.negotiate = .ok (fork, .json members)) :
  raw.decodeRecord kind =
    (takeData members >>= fun data =>
      liftRecord (Versioned.ofJson kind fork.toFork data Response.dataField)).map fun record =>
      respond fork record (otherMembers members)
  := by
  rw [decodeRecord, h]
  simp only [bind, Except.bind]
  cases takeData members with
  | error e => rfl
  | ok data =>
    dsimp only
    cases liftRecord (Versioned.ofJson kind fork.toFork data Response.dataField)
    all_goals rfl

/-! ### A list of updates -/

theorem decodeUpdates_of_error {e : ResponseError} (h : raw.negotiate = .error e) :
  raw.decodeUpdates = .error e
  := by
  rw [decodeUpdates, h]
  rfl

/-- Reading the elements of a JSON list is reading each under its index. -/
theorem readElements_eq_mapM (index : Nat) (items : List Json) :
  readElements fork index items =
    (items.zipIdx index).mapM fun entry => Versioned.ofJson .update fork.toFork entry.1
      (Section.element Response.dataField entry.2)
  := by
  induction items generalizing index with
  | nil => rfl
  | cons item rest ih =>
    rw [readElements, ih, List.zipIdx_cons, List.mapM_cons]

/-- Reading the payloads of chunks is reading each under its index. -/
theorem readChunks_eq_mapM (index : Nat) (chunks : List Chunk) :
  readChunks fork index chunks =
    (chunks.zipIdx index).mapM fun entry =>
      (Versioned.ofSsz .update fork.toFork entry.1.payload).mapError (labelChunk entry.2)
  := by
  induction chunks generalizing index with
  | nil => rfl
  | cons chunk rest ih =>
    rw [readChunks, ih, List.zipIdx_cons, List.mapM_cons]

/-- The elements of a JSON list are read when each is read by itself. -/
theorem readElements_eq_ok_iff {index : Nat} {items : List Json}
    {records : List (Versioned .update)} :
  readElements fork index items = .ok records ↔
    List.Forall₂ (fun item x => Versioned.ofJson .update fork.toFork item "" = .ok x)
      items records
  := by
  rw [readElements_eq_mapM]
  apply Except.mapM_zipIdx_eq_ok_iff
  intro item i x
  apply Versioned.ofJson_eq_ok_iff_of_path

/-- The payloads of chunks are read when each is. -/
theorem readChunks_eq_ok_iff {index : Nat} {chunks : List Chunk}
    {records : List (Versioned .update)} :
  readChunks fork index chunks = .ok records ↔
    List.Forall₂ (fun chunk x => Versioned.ofSsz .update fork.toFork chunk.payload = .ok x)
      chunks records
  := by
  rw [readChunks_eq_mapM]
  apply Except.mapM_zipIdx_eq_ok_iff
  intro chunk i x
  apply Except.mapError_eq_ok_iff

/-- The updates in the data of a JSON body. -/
def readUpdates (fork : LightFork) : Json → Except ResponseError (List (Versioned .update))
  | .array items => liftRecord (readElements fork 0 items)
  | _ => .error (.badRecord (.wrongType Response.dataField "an array"))

/-- The updates of a JSON response are what it has for data. -/
theorem decodeUpdates_of_members {members : Json.Members}
    (h : raw.negotiate = .ok (fork, .json members)) :
  raw.decodeUpdates = (takeData members >>= readUpdates fork).map fun records =>
    respond fork records (otherMembers members)
  := by
  rw [decodeUpdates, h]
  simp only [bind, Except.bind]
  cases takeData members with
  | error e => rfl
  | ok data =>
    cases data with
    | array items =>
      dsimp only [readUpdates]
      cases liftRecord (readElements fork 0 items)
      all_goals rfl
    | _ => rfl

/-- A JSON response with a list is decoded by reading the elements. -/
theorem decodeUpdates_of_json {members : Json.Members} {items : List Json}
    (h : raw.negotiate = .ok (fork, .json members))
    (hdata : Json.find? Response.dataField members = some (.array items)) :
  raw.decodeUpdates = (liftRecord (readElements fork 0 items)).map fun records =>
    respond fork records (otherMembers members)
  := by
  have htake : takeData members = .ok (.array items) :=
    takeData_eq_ok_iff.mpr ⟨hdata, Json.noConfusion⟩
  rw [decodeUpdates_of_members h, htake]
  rfl

/-- A JSON response without a list is refused for its data. -/
theorem decodeUpdates_of_not_array {members : Json.Members}
    (h : raw.negotiate = .ok (fork, .json members))
    (hdata : ∀ items, Json.find? Response.dataField members ≠ some (.array items)) :
  raw.decodeUpdates = .error (.badRecord (.missing Response.dataField)) ∨
    raw.decodeUpdates = .error (.badRecord (.wrongType Response.dataField "an array"))
  := by
  rw [decodeUpdates_of_members h]
  cases htake : takeData members with
  | error e =>
    left
    rw [takeData_eq_error htake]
    rfl
  | ok data =>
    right
    cases data with
    | array items => exact absurd (takeData_eq_ok_iff.mp htake).1 (hdata items)
    | _ => rfl

/-- An SSZ response is decoded by taking the body apart and then reading the payloads. -/
theorem decodeUpdates_of_ssz {bytes : List UInt8}
    (h : raw.negotiate = .ok (fork, .ssz bytes)) :
  raw.decodeUpdates =
    match Chunk.split bytes with
    | .error fault => .error (.badRecord (.badLayout Kind.update.name fault.message))
    | .ok chunks => (liftRecord (readChunks fork 0 chunks)).map fun records =>
      respond fork records raw.metadata
  := by
  rw [decodeUpdates, h]
  simp only [bind, Except.bind]
  cases Chunk.split bytes with
  | error fault => rfl
  | ok chunks =>
    simp only [liftRecord, Except.mapError]
    cases readChunks fork 0 chunks
    all_goals rfl

end BeaconLight.RawResponse

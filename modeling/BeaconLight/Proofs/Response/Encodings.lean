import BeaconLight.Proofs.Record.Json
import BeaconLight.Proofs.Record.Ssz
import BeaconLight.Proofs.Response.Chunk
import BeaconLight.Proofs.Response.Decoding
import BeaconLight.Proofs.Response.Metadata
import BeaconLight.Proofs.Response.Negotiation

/-!
# One response in two encodings

Data and metadata can be served in SSZ, where the metadata are in the headers, or in JSON, where
they are members of the body beside the data. Either way the response is decoded to the same.
-/

namespace BeaconLight

/-! ### The two encodings -/

/-- The response in SSZ with a body: the fork and the metadata are in its headers. -/
def sszResponse (fork : LightFork) (metadata : HeaderMetadata) (body : List UInt8) :
  RawResponse :=
  RawResponse.insertHeaders ⟨some Encoding.sszType, some fork.name, [], body⟩ metadata.headers

/-- The members of the response in JSON: the fork, the data and the metadata. -/
def jsonMembers (fork : LightFork) (metadata : HeaderMetadata) (data : Json) : Json.Members :=
  (Response.versionField, .string fork.name) :: (Response.dataField, data) :: metadata.members

/-- The response is one in JSON, with or without a header for the fork. The members of its body
come in any order. -/
structure RawResponse.IsJsonOf (raw : RawResponse) (fork : LightFork)
    (metadata : HeaderMetadata) (data : Json) : Prop where
  contentType : raw.contentType = some Encoding.jsonType
  consensusVersion : raw.consensusVersion = none ∨ raw.consensusVersion = some fork.name
  body : ∃ members, members.Perm (jsonMembers fork metadata data) ∧
    Json.parse raw.body = .ok (.object members)

/-- The encodings of data and metadata agree: the response in SSZ and all those in JSON are
decoded to one response with the data, and there are those in JSON, since members in any order
are read back from their text. -/
structure EncodingsAgree {α : Type} (fork : LightFork) (metadata : HeaderMetadata) (x : α)
    (body : List UInt8) (data : Json)
    (decode : RawResponse → Except ResponseError (Response α)) : Prop where
  decoded : ∃ response, response.data = x ∧
    decode (sszResponse fork metadata body) = .ok response ∧
    ∀ raw : RawResponse, raw.IsJsonOf fork metadata data → decode raw = .ok response
  printed : ∀ members, members.Perm (jsonMembers fork metadata data) →
    Json.parse (Json.encode (.object members)) = .ok (.object members)

variable {fork : LightFork} {metadata : HeaderMetadata} {data : Json} {raw : RawResponse}

/-! ### Negotiation -/

theorem LightFork.outcome_name (fork : LightFork) :
  ForkOutcome fork.name (.ok fork)
  := .light fork.toFork.isNamedBy_name

theorem sszResponse_eq (fork : LightFork) (metadata : HeaderMetadata) (body : List UInt8) :
  sszResponse fork metadata body
    = ⟨some Encoding.sszType, some fork.name, Json.sorted metadata.members, body⟩
  := RawResponse.insertHeaders_headers rfl metadata

/-- The response in SSZ negotiates to its fork and its body. -/
theorem negotiate_sszResponse (fork : LightFork) (metadata : HeaderMetadata)
    (body : List UInt8) :
  (sszResponse fork metadata body).negotiate = .ok (fork, .ssz body)
  := by
  rw [sszResponse_eq]
  apply RawResponse.Outcome.negotiate
  apply RawResponse.Outcome.header rfl fork.outcome_name
  apply RawResponse.ContentOutcome.ssz
  exact ⟨_, rfl, by decide⟩

/-- The names of the members of the body are all different. -/
theorem nodup_jsonMembers :
  ((jsonMembers fork metadata data).map Prod.fst).Nodup
  := by
  have hversion : Response.versionField ≠ Response.dataField := by decide
  have hnames : ((jsonMembers fork metadata data).map Prod.fst)
      = Response.versionField :: Response.dataField :: metadata.members.map Prod.fst := rfl
  rw [hnames, List.nodup_cons, List.nodup_cons, List.mem_cons, not_or]
  refine ⟨⟨hversion, ?_⟩, ?_, ?_⟩
  · intro h
    apply (metadata.isHeaderKey_of_mem h).ne_version rfl
  · intro h
    apply (metadata.isHeaderKey_of_mem h).ne_data rfl
  · rw [metadata.map_fst_members]
    apply metadata.nodup

theorem find?_of_perm {members : Json.Members}
    (h : members.Perm (jsonMembers fork metadata data)) :
  ∀ member ∈ jsonMembers fork metadata data, Json.find? member.1 members = some member.2
  := by
  intro member hmember
  apply Json.find?_eq_some
  · apply (h.map Prod.fst).nodup_iff.mpr nodup_jsonMembers
  · apply h.mem_iff.mpr hmember

/-- The response in JSON negotiates to its fork and its members. -/
theorem RawResponse.IsJsonOf.negotiate (h : raw.IsJsonOf fork metadata data) :
  ∃ members, members.Perm (jsonMembers fork metadata data) ∧
    raw.negotiate = .ok (fork, .json members)
  := by
  obtain ⟨members, hmembers, hbody⟩ := h.body
  refine ⟨members, hmembers, ?_⟩
  have hcontent : raw.ContentOutcome (.ok (.json members)) := by
    apply ContentOutcome.json _ hbody
    intro value hvalue
    obtain rfl := Option.some.inj (h.contentType.symm.trans hvalue)
    decide
  apply Outcome.negotiate
  rcases h.consensusVersion with hheader | hheader
  · apply Outcome.body hheader hcontent _ fork.outcome_name
    apply find?_of_perm hmembers (Response.versionField, _)
    apply List.mem_cons_self
  · exact .header hheader fork.outcome_name hcontent

/-! ### Metadata -/

/-- Without the data the members of the body are the fork and the metadata. -/
theorem erase_perm {members : Json.Members}
    (h : members.Perm (jsonMembers fork metadata data)) :
  (Json.erase Response.dataField members).Perm
    (metadata.members ++ [(Response.versionField, .string fork.name)])
  := by
  have hmetadata : Json.erase Response.dataField metadata.members = metadata.members := by
    apply Json.erase_eq_self
    intro hdata
    apply (metadata.isHeaderKey_of_mem hdata).ne_data rfl
  have herase : Json.erase Response.dataField (jsonMembers fork metadata data)
      = (Response.versionField, .string fork.name) :: metadata.members := by
    rw [← hmetadata]
    rfl
  have hfilter : (Json.erase Response.dataField members).Perm
      (Json.erase Response.dataField (jsonMembers fork metadata data)) := h.filter _
  rw [herase] at hfilter
  exact hfilter.trans (List.perm_append_singleton _ _).symm

/-- A response in JSON is decoded with the metadata that a response in SSZ has sorted, once the
fork is put in them. -/
theorem respond_otherMembers {α : Type} {members : Json.Members}
    (h : members.Perm (jsonMembers fork metadata data)) (x : α) :
  RawResponse.respond fork x (RawResponse.otherMembers members)
    = RawResponse.respond fork x (Json.sorted metadata.members)
  := by
  have hcanonical : Json.canonicalMembers (Json.erase Response.dataField members)
      = Json.erase Response.dataField members := by
    apply Json.canonicalMembers_eq_self
    intro member hmember
    rcases List.mem_append.mp ((erase_perm h).mem_iff.mp hmember) with hmetadata | hfork
    · obtain ⟨entry, -, rfl⟩ := List.mem_map.mp hmetadata
      apply entry.2.canonical_toJson
    · rw [List.mem_singleton.mp hfork]
      simp [Json.canonical]
  have hnodup : ((Json.erase Response.dataField members).map Prod.fst).Nodup := by
    apply List.Nodup.sublist (List.filter_sublist.map Prod.fst)
    apply (h.map Prod.fst).nodup_iff.mpr nodup_jsonMembers
  rw [RawResponse.respond, RawResponse.otherMembers, hcanonical,
    Json.sorted_perm (erase_perm h) hnodup, Json.insert_sorted_append]
  rfl

/-! ### Agreement -/

/-- Members of a plain body are read back from their text. -/
theorem parse_encode_members (hdata : Json.IsPlain (Json.maxDepth - 1) data)
    {members : Json.Members} (h : members.Perm (jsonMembers fork metadata data)) :
  Json.parse (Json.encode (.object members)) = .ok (.object members)
  := by
  apply Json.parse_encode
  apply Json.membersArePlain_iff.mpr
  intro member hmember
  rcases List.mem_cons.mp (h.mem_iff.mp hmember) with rfl | hmember
  · trivial
  rcases List.mem_cons.mp hmember with rfl | hmember
  · apply hdata
  · obtain ⟨entry, -, rfl⟩ := List.mem_map.mp hmember
    cases entry.2
    all_goals trivial

/-- The encodings agree when decoding finds the data in the body of the response in SSZ and in
the members of one in JSON. -/
theorem encodingsAgree_of_decode {α : Type} {x : α} {body : List UInt8}
    {decode : RawResponse → Except ResponseError (Response α)}
    (hplain : Json.IsPlain (Json.maxDepth - 1) data)
    (hssz : ∀ raw : RawResponse, raw.negotiate = .ok (fork, .ssz body) →
      decode raw = .ok (RawResponse.respond fork x raw.metadata))
    (hjson : ∀ (raw : RawResponse) members, raw.negotiate = .ok (fork, .json members) →
      Json.find? Response.dataField members = some data →
      decode raw = .ok (RawResponse.respond fork x (RawResponse.otherMembers members))) :
  EncodingsAgree fork metadata x body data decode
  := by
  constructor
  · refine ⟨RawResponse.respond fork x (Json.sorted metadata.members), rfl, ?_, ?_⟩
    · rw [hssz _ (negotiate_sszResponse fork metadata body), sszResponse_eq]
    · intro raw hraw
      obtain ⟨members, hmembers, hnegotiate⟩ := hraw.negotiate
      have hdata : Json.find? Response.dataField members = some data := by
        apply find?_of_perm hmembers (Response.dataField, data)
        apply List.mem_cons_of_mem
        apply List.mem_cons_self
      rw [hjson raw members hnegotiate hdata, respond_otherMembers hmembers]
  · intro members hmembers
    apply parse_encode_members hplain hmembers

/-- The encodings of a record agree. -/
theorem encodingsAgree_record {kind : Kind} (x : Versioned kind) (metadata : HeaderMetadata) :
  EncodingsAgree x.fork metadata x x.toSsz x.toJson (RawResponse.decodeRecord kind)
  := by
  apply encodingsAgree_of_decode (x.isPlain_toJson (by decide))
  · intro raw hraw
    rw [RawResponse.decodeRecord_of_ssz hraw, x.ofSsz_toSsz]
    rfl
  · intro raw members hraw hdata
    have htake : RawResponse.takeData members = .ok x.toJson := by
      apply RawResponse.takeData_eq_ok_iff.mpr ⟨hdata, _⟩
      rintro ⟨⟩
    rw [RawResponse.decodeRecord_of_json hraw, htake]
    simp only [bind, Except.bind, x.ofJson_toJson]
    rfl

/-- The body with updates, each in a chunk with a fork digest. -/
def updatesBody (chunks : List (Bytes 4 × Versioned .update)) : List UInt8 :=
  chunks.flatMap fun chunk => Chunk.encode ⟨chunk.1, chunk.2.toSsz⟩

/-- The data with updates. -/
def updatesData (records : List (Versioned .update)) : Json :=
  .array (records.map Versioned.toJson)

/-- The chunks of updates are read back from the body. -/
theorem frames_updatesBody (chunks : List (Bytes 4 × Versioned .update)) :
  Chunk.Frames (chunks.map fun chunk => ⟨chunk.1, chunk.2.toSsz⟩) (updatesBody chunks)
  := by
  constructor
  · intro _ hchunk
    obtain ⟨chunk, -, rfl⟩ := List.mem_map.mp hchunk
    have hlength := chunk.2.length_toSsz_lt
    rw [Chunk.Fits]
    simp only [Ssz.offsetSize, Chunk.digestSize, Chunk.lengthSize] at hlength ⊢
    omega
  · rw [updatesBody, List.flatMap_map]

/-- The encodings of a list of updates of a fork agree. -/
theorem encodingsAgree_updates {chunks : List (Bytes 4 × Versioned .update)}
    (h : ∀ chunk ∈ chunks, chunk.2.fork = fork) (metadata : HeaderMetadata) :
  EncodingsAgree fork metadata (chunks.map Prod.snd) (updatesBody chunks)
    (updatesData (chunks.map Prod.snd)) RawResponse.decodeUpdates
  := by
  have hrecords : ∀ x ∈ chunks.map Prod.snd, x.fork = fork := by
    intro x hx
    obtain ⟨chunk, hchunk, rfl⟩ := List.mem_map.mp hx
    apply h chunk hchunk
  apply encodingsAgree_of_decode
  · rw [updatesData]
    apply Json.arePlain_iff.mpr
    intro item hitem
    obtain ⟨x, -, rfl⟩ := List.mem_map.mp hitem
    apply x.isPlain_toJson (by decide)
  · intro raw hraw
    rw [RawResponse.decodeUpdates_of_ssz hraw,
      Chunk.split_eq_ok_iff.mpr (frames_updatesBody chunks)]
    dsimp only
    have hread : RawResponse.readChunks fork 0
        (chunks.map fun chunk => ⟨chunk.1, chunk.2.toSsz⟩) = .ok (chunks.map Prod.snd) := by
      rw [RawResponse.readChunks_eq_ok_iff, List.forall₂_map_left_iff,
        List.forall₂_map_right_iff, List.forall₂_same]
      intro chunk hchunk
      rw [← h chunk hchunk]
      apply chunk.2.ofSsz_toSsz
    rw [hread]
    rfl
  · intro raw members hraw hdata
    have hread : RawResponse.readElements fork 0 ((chunks.map Prod.snd).map Versioned.toJson)
        = .ok (chunks.map Prod.snd) := by
      rw [RawResponse.readElements_eq_ok_iff, List.forall₂_map_left_iff, List.forall₂_same]
      intro x hx
      rw [← hrecords x hx]
      apply x.ofJson_toJson
    rw [RawResponse.decodeUpdates_of_json hraw hdata, hread]
    rfl

/-- The two encodings give the same response. Whatever fork digests its chunks have and whatever
metadata come with it, a list of updates of a fork is decoded from SSZ and from JSON to one
response, with the updates in order; and so is a record of any kind. -/
theorem encodings_agree (fork : LightFork) (metadata : HeaderMetadata) :
  (∀ chunks : List (Bytes 4 × Versioned .update), (∀ chunk ∈ chunks, chunk.2.fork = fork) →
    EncodingsAgree fork metadata (chunks.map Prod.snd) (updatesBody chunks)
      (updatesData (chunks.map Prod.snd)) RawResponse.decodeUpdates) ∧
  (∀ kind (x : Versioned kind), x.fork = fork →
    EncodingsAgree fork metadata x x.toSsz x.toJson (RawResponse.decodeRecord kind))
  := by
  constructor
  · intro chunks h
    apply encodingsAgree_updates h
  · rintro kind x rfl
    apply encodingsAgree_record

end BeaconLight

import BeaconLight.Proofs.Record.Fault
import BeaconLight.Proofs.Response.Decoding
import BeaconLight.Proofs.Response.Negotiation
import BeaconLight.Proofs.Schema.Normalization

/-!
# The fork of the header

Where the header names the fork of a JSON response, what the body has as its version is not looked
at. Bodies that are the same besides their versions come to the same result under one header: the
data are read off the canonical form of what is found under their name, and the metadata are what is
found under the other names, with the fork of the header in place of the version.
-/

namespace BeaconLight

/-- Two objects are the same without the members of a name. -/
def Json.SameBesides (name : String) (members members' : Members) : Prop :=
  (object (erase name members)).canonical = (object (erase name members')).canonical

/-- Under other names the same is found in both. -/
theorem Json.SameBesides.find? {name other : String} {members members' : Members}
    (h : SameBesides name members members') (hother : other ≠ name) :
  (Json.find? other members).map canonical = (Json.find? other members').map canonical
  := by
  rw [← find?_erase_of_ne hother members, ← find?_erase_of_ne hother members']
  apply canonical_object_eq_iff.mp h

/-- A record is read off the canonical form of a value as off the value. -/
theorem Versioned.ofJson_canonical (kind : Kind) (fork : Fork) (value : Json) (path : String) :
  ofJson kind fork value.canonical path = ofJson kind fork value path
  := by
  unfold ofJson
  cases fork.light? with
  | none => rfl
  | some light =>
    dsimp only
    rw [Layout.ofJson_canonical]

/-! ### Metadata -/

/-- The metadata of a response in JSON: the fork as its version, and besides that what is found in
the members of the body under all names but that of the data. -/
structure IsMetadata (fork : LightFork) (members metadata : Json.Members) : Prop where
  sorted : Json.IsSorted metadata
  version : Json.find? Response.versionField metadata = some (.string fork.name)
  data : Json.find? Response.dataField metadata = none
  others : ∀ name, name ≠ Response.versionField → name ≠ Response.dataField →
    Json.find? name metadata = (Json.find? name members).map Json.canonical

namespace IsMetadata

variable {fork : LightFork} {members members' metadata metadata' : Json.Members}

/-- A body has one list of metadata under a fork. -/
theorem unique (h : IsMetadata fork members metadata) (h' : IsMetadata fork members metadata') :
  metadata = metadata'
  := by
  apply h.sorted.eq_of_find?_eq h'.sorted
  intro name
  by_cases hversion : name = Response.versionField
  · rw [hversion, h.version, h'.version]
  · by_cases hdata : name = Response.dataField
    · rw [hdata, h.data, h'.data]
    · rw [h.others name hversion hdata, h'.others name hversion hdata]

/-- The version of the body is no part of its metadata. -/
theorem of_sameBesides (h : IsMetadata fork members metadata)
    (hsame : Json.SameBesides Response.versionField members members') :
  IsMetadata fork members' metadata
  := by
  refine ⟨h.sorted, h.version, h.data, ?_⟩
  intro name hversion hdata
  rw [h.others name hversion hdata, hsame.find? hversion]

end IsMetadata

namespace RawResponse

variable {α : Type} {fork : LightFork} {members members' : Json.Members}

/-- A response is given the metadata of its body. -/
theorem isMetadata_respond (fork : LightFork) (members : Json.Members) (x : α) :
  IsMetadata fork members (respond fork x (otherMembers members)).metadata
  := by
  have hothers : Json.IsSorted (otherMembers members) := Json.isSorted_sorted _
  constructor
  case sorted => apply hothers.insert
  case version => apply hothers.find?_insert_self
  case data =>
    rw [respond, Json.find?_insert_of_ne (by decide), otherMembers,
      Json.find?_sorted_canonicalMembers, Json.find?_erase]
    rfl
  case others =>
    intro name hversion hdata
    rw [respond, Json.find?_insert_of_ne hversion, otherMembers,
      Json.find?_sorted_canonicalMembers, Json.find?_erase_of_ne hdata]

/-- Bodies that are the same besides their versions give the same metadata. -/
theorem respond_eq_of_sameBesides (fork : LightFork)
    (hsame : Json.SameBesides Response.versionField members members') (x : α) :
  respond fork x (otherMembers members) = respond fork x (otherMembers members')
  := by
  have hmetadata := ((isMetadata_respond fork members x).of_sameBesides hsame).unique
    (isMetadata_respond fork members' x)
  exact congrArg (Response.mk x) hmetadata

/-! ### Bodies -/

/-- The data of a body are in canonical form when what is found under their name is. -/
theorem takeData_canonical
    (h : Json.find? Response.dataField members'
      = (Json.find? Response.dataField members).map Json.canonical) :
  takeData members' = (takeData members).map Json.canonical
  := by
  rw [takeData, takeData, h]
  cases Json.find? Response.dataField members with
  | none => rfl
  | some value =>
    cases value
    all_goals rfl

/-- What a body that is an object comes to under a fork. -/
def readBody (fork : LightFork) (members : Json.Members)
    (read : Json → Except ResponseError α) : Except ResponseError (Response α) :=
  (takeData members >>= read).map fun x => respond fork x (otherMembers members)

/-- A reader does not tell a value from its canonical form. -/
def ReadsCanonical (read : Json → Except ResponseError α) : Prop :=
  ∀ value : Json, read value.canonical = read value

/-- Data are read off the canonical form of a body without its version. -/
theorem takeData_bind_eq {read : Json → Except ResponseError α} (hread : ReadsCanonical read)
    (members : Json.Members) :
  takeData members >>= read
    = takeData (Json.sorted (Json.canonicalMembers (Json.erase Response.versionField members)))
      >>= read
  := by
  have hfind : Json.find? Response.dataField
        (Json.sorted (Json.canonicalMembers (Json.erase Response.versionField members)))
      = (Json.find? Response.dataField members).map Json.canonical := by
    rw [Json.find?_sorted_canonicalMembers, Json.find?_erase_of_ne (by decide)]
  rw [takeData_canonical hfind]
  cases takeData members with
  | error e => rfl
  | ok value =>
    symm
    apply hread

/-- Bodies that are the same besides their versions come to the same. -/
theorem readBody_eq_of_sameBesides {read : Json → Except ResponseError α}
    (hread : ReadsCanonical read)
    (hsame : Json.SameBesides Response.versionField members members') :
  readBody fork members read = readBody fork members' read
  := by
  have hbare : Json.sorted (Json.canonicalMembers (Json.erase Response.versionField members))
      = Json.sorted (Json.canonicalMembers (Json.erase Response.versionField members')) :=
    Json.object.inj hsame
  have hrespond (x : α) := respond_eq_of_sameBesides fork hsame x
  rw [readBody, readBody, takeData_bind_eq hread members, hbare, ← takeData_bind_eq hread members']
  simp only [hrespond]

/-- The record in the data of a body. -/
def readRecord (kind : Kind) (fork : LightFork) (data : Json) :
  Except ResponseError (Versioned kind) :=
  liftRecord (Versioned.ofJson kind fork.toFork data Response.dataField)

theorem readsCanonical_readRecord (kind : Kind) (fork : LightFork) :
  ReadsCanonical (readRecord kind fork)
  := by
  intro value
  rw [readRecord, readRecord, Versioned.ofJson_canonical]

/-- The elements of a list are read off their canonical forms as off the list. -/
theorem readElements_canonicalItems (fork : LightFork) (index : Nat) (items : List Json) :
  readElements fork index (Json.canonicalItems items) = readElements fork index items
  := by
  induction items generalizing index with
  | nil => rfl
  | cons item rest ih =>
    rw [Json.canonicalItems, readElements, readElements, Versioned.ofJson_canonical, ih]

/-- Updates are read off a canonical form as off the value. -/
theorem readsCanonical_readUpdates (fork : LightFork) :
  ReadsCanonical (readUpdates fork)
  := by
  intro value
  cases value with
  | array items => rw [Json.canonical, readUpdates, readUpdates, readElements_canonicalItems]
  | _ => rfl

/-! ### Responses -/

/-- A response in JSON with a text for its header and an object for its body. -/
structure IsHeaded (raw : RawResponse) (text : String) (members : Json.Members) : Prop where
  header : raw.consensusVersion = some text
  isJson : raw.IsJson
  body : Json.parse raw.body = .ok (.object members)

variable {raw : RawResponse} {text : String}

namespace IsHeaded

/-- The fork is the one that the header names, and the body is not asked for it. -/
theorem negotiate (h : raw.IsHeaded text members) :
  raw.negotiate = (LightFork.ofText text).map fun fork => (fork, .json members)
  := by
  obtain ⟨named, htext⟩ := exists_forkOutcome text
  rw [forkOutcome_iff.mp htext]
  apply Outcome.negotiate
  cases named with
  | error e => exact .headerRefused h.header htext
  | ok fork => exact .header h.header htext (.json h.isJson h.body)

/-- A record is decoded from the body under the fork that the header names. -/
theorem decodeRecord_eq (h : raw.IsHeaded text members) (kind : Kind) :
  raw.decodeRecord kind
    = LightFork.ofText text >>= fun fork => readBody fork members (readRecord kind fork)
  := by
  have hnegotiate := h.negotiate
  cases hfork : LightFork.ofText text with
  | error e =>
    rw [hfork] at hnegotiate
    apply decodeRecord_of_error hnegotiate
  | ok fork =>
    rw [hfork] at hnegotiate
    apply decodeRecord_of_json hnegotiate

/-- Updates are decoded from the body under the fork that the header names. -/
theorem decodeUpdates_eq (h : raw.IsHeaded text members) :
  raw.decodeUpdates
    = LightFork.ofText text >>= fun fork => readBody fork members (readUpdates fork)
  := by
  have hnegotiate := h.negotiate
  cases hfork : LightFork.ofText text with
  | error e =>
    rw [hfork] at hnegotiate
    apply decodeUpdates_of_error hnegotiate
  | ok fork =>
    rw [hfork] at hnegotiate
    apply decodeUpdates_of_members hnegotiate

end IsHeaded

/-- Under one header, bodies that are the same besides their versions come to the same. -/
theorem ofText_bind_readBody_eq {read : LightFork → Json → Except ResponseError α}
    (hread : ∀ fork, ReadsCanonical (read fork))
    (hsame : Json.SameBesides Response.versionField members members') :
  (LightFork.ofText text >>= fun fork => readBody fork members (read fork))
    = LightFork.ofText text >>= fun fork => readBody fork members' (read fork)
  := by
  have hbody (fork : LightFork) : readBody fork members (read fork)
      = readBody fork members' (read fork) := readBody_eq_of_sameBesides (hread fork) hsame
  simp only [hbody]

/-- What a body comes to under a header has the metadata of the body under the fork that the
header names. -/
theorem isMetadata_of_readBody {read : LightFork → Json → Except ResponseError α}
    {response : Response α}
    (h : LightFork.ofText text >>= (fun fork => readBody fork members (read fork))
      = .ok response) :
  ∃ fork : LightFork, fork.toFork.IsNamedBy text ∧ IsMetadata fork members response.metadata
  := by
  obtain ⟨fork, htext, hbody⟩ := Except.bind_eq_ok_iff.mp h
  obtain ⟨x, -, rfl⟩ := Except.map_eq_ok_iff.mp hbody
  cases forkOutcome_iff.mpr htext with
  | light hnamed => exact ⟨fork, hnamed, isMetadata_respond fork members x⟩

/-- Under one header, JSON responses whose bodies are the same besides their versions come to the
same, whatever the versions are and whatever the other headers say. What is decoded has the fork of
the header for its version and the other members of the body without the data for its further
metadata. -/
theorem header_outranks_body {raw' : RawResponse} (h : raw.IsHeaded text members)
    (h' : raw'.IsHeaded text members')
    (hsame : Json.SameBesides Response.versionField members members') :
  (∀ kind : Kind, raw.decodeRecord kind = raw'.decodeRecord kind ∧
    ∀ response, raw.decodeRecord kind = .ok response →
      ∃ fork : LightFork, fork.toFork.IsNamedBy text ∧
        IsMetadata fork members response.metadata) ∧
  raw.decodeUpdates = raw'.decodeUpdates ∧
  ∀ response, raw.decodeUpdates = .ok response →
    ∃ fork : LightFork, fork.toFork.IsNamedBy text ∧ IsMetadata fork members response.metadata
  := by
  refine ⟨?_, ?_, ?_⟩
  · intro kind
    rw [h.decodeRecord_eq, h'.decodeRecord_eq]
    constructor
    · apply ofText_bind_readBody_eq _ hsame
      apply readsCanonical_readRecord
    · intro response
      apply isMetadata_of_readBody
  · rw [h.decodeUpdates_eq, h'.decodeUpdates_eq]
    apply ofText_bind_readBody_eq _ hsame
    apply readsCanonical_readUpdates
  · intro response
    rw [h.decodeUpdates_eq]
    apply isMetadata_of_readBody

/-- The members of a body with the zero finality update and a version, if there is one. -/
def zeroMembers (version : Option Json) : Json.Members :=
  (version.toList.map fun value => (Response.versionField, value)) ++
    [("finalized", .bool true), ("data", Versioned.zeroFinality.toJson)]

/-- A response with that body and a header that names the fork of the update. -/
def zeroResponse (metadata : Json.Members) (version : Option Json) : RawResponse :=
  ⟨none, some "Altair", metadata, Json.encode (.object (zeroMembers version))⟩

/-- Under the header of its fork the zero finality update is decoded alike from a body without a
version, from one whose version is another fork and from one whose version is no text. -/
theorem header_outranks_body_zeroFinality :
  (zeroResponse [] none).decodeRecord .finalityUpdate
    = .ok ⟨.zeroFinality, [("finalized", .bool true), ("version", .string "altair")]⟩ ∧
  (zeroResponse [("execution_optimistic", .bool true)] (some (.string "deneb"))).decodeRecord
      .finalityUpdate
    = .ok ⟨.zeroFinality, [("finalized", .bool true), ("version", .string "altair")]⟩ ∧
  (zeroResponse [] (some (.array []))).decodeRecord .finalityUpdate
    = .ok ⟨.zeroFinality, [("finalized", .bool true), ("version", .string "altair")]⟩
  := by
  have hdata : Json.IsPlain (Json.maxDepth - 1) (.object (zeroMembers none)) :=
    ⟨trivial, Versioned.zeroFinality.isPlain_toJson (by decide), trivial⟩
  have hheaded (metadata : Json.Members) (version : Option Json)
      (hplain : Json.IsPlain Json.maxDepth (.object (zeroMembers version))) :
      (zeroResponse metadata version).IsHeaded "Altair" (zeroMembers version) :=
    ⟨rfl, by rintro value ⟨⟩, Json.parse_encode hplain⟩
  have hnone := hheaded [] none hdata
  have hdeneb := hheaded [("execution_optimistic", .bool true)] (some (.string "deneb"))
    ⟨trivial, hdata⟩
  have hlist := hheaded [] (some (.array [])) ⟨trivial, hdata⟩
  have hrecord : (zeroResponse [] none).decodeRecord .finalityUpdate
      = .ok ⟨.zeroFinality, [("finalized", .bool true), ("version", .string "altair")]⟩ := by
    have htake : takeData (zeroMembers none) = .ok Versioned.zeroFinality.toJson :=
      takeData_eq_ok_iff.mpr ⟨rfl, Json.noConfusion⟩
    have hzero : Versioned.ofJson .finalityUpdate LightFork.altair.toFork
        Versioned.zeroFinality.toJson Response.dataField = .ok Versioned.zeroFinality :=
      Versioned.ofJson_toJson Versioned.zeroFinality _
    have hread : readRecord .finalityUpdate .altair Versioned.zeroFinality.toJson
        = .ok Versioned.zeroFinality := by
      rw [readRecord, hzero]
      rfl
    rw [hnone.decodeRecord_eq, Except.bind_eq_ok_iff]
    refine ⟨.altair, forkOutcome_iff.mp (.light (by decide)), ?_⟩
    rw [readBody, Except.map_eq_ok_iff]
    exact ⟨_, Except.bind_eq_ok_iff.mpr ⟨_, htake, hread⟩, rfl⟩
  refine ⟨hrecord, ?_, ?_⟩
  · rw [← hrecord]
    apply ((header_outranks_body hdeneb hnone rfl).1 .finalityUpdate).1
  · rw [← hrecord]
    apply ((header_outranks_body hlist hnone rfl).1 .finalityUpdate).1

end RawResponse

end BeaconLight

import BeaconLight.Proofs.Response.Event

/-!
# Records of the first fork

The first fork has no light client data, and what is read under it is refused for the fork before
anything else is looked at. A response that names it is refused in the same way.

An event document that names it is not: it has to have data before the fork is looked at, so it is
refused for the fork when there are some, whatever they are, and otherwise because there are none.
-/

namespace BeaconLight

/-! ### Event documents that name the first fork -/

/-- An object has data that are not `null`. -/
def HasData (members : Json.Members) : Prop :=
  ∃ data, Json.find? "data" members = some data ∧ data ≠ .null

/-- What an event document that names the first fork is refused for. -/
inductive FirstForkRefusal (members : Json.Members) : RecordError → Prop
  /-- It has data, and it is refused for the fork. -/
  | unsupported (h : HasData members) : FirstForkRefusal members (.unsupportedFork .phase0)
  /-- It has none, and it is refused for that. -/
  | missing (h : ¬ HasData members) : FirstForkRefusal members (.missing "data")

section FirstFork

variable {bytes : List UInt8} {members : Json.Members} {text : String} {e : RecordError}

/-- Data that are not there are missing. -/
theorem required_data_of_not_hasData (h : ¬ HasData members) :
  Section.required ⟨"", members⟩ "data" = .error (.missing "data")
  := by
  rw [Section.required]
  split
  · rfl
  · rfl
  · rename_i data hnull hfind
    apply absurd ⟨data, hfind, hnull⟩ h

/-- An event document that names the first fork is refused, for the fork exactly when it has
data. -/
theorem ofEvent_firstFork_iff (kind : Kind) (h : Json.parse bytes = .ok (.object members))
    (hversion : Json.find? "version" members = some (.string text))
    (htext : Fork.phase0.IsNamedBy text) :
  Versioned.ofEvent kind bytes = .error e ↔ FirstForkRefusal members e
  := by
  rw [Versioned.ofEvent_of_named h hversion htext]
  by_cases hdata : HasData members
  · obtain ⟨data, hfind⟩ := hdata
    rw [Section.required_eq_ok_iff.mpr hfind]
    constructor
    · rintro ⟨⟩
      exact .unsupported ⟨data, hfind⟩
    · intro hrefusal
      cases hrefusal with
      | unsupported => rfl
      | missing hnone => exact absurd ⟨data, hfind⟩ hnone
  · rw [required_data_of_not_hasData hdata]
    constructor
    · rintro ⟨⟩
      exact .missing hdata
    · intro hrefusal
      cases hrefusal with
      | unsupported hsome => exact absurd hsome hdata
      | missing => rfl

/-- So is an event under either topic. -/
theorem read?_firstFork_iff {kind : Kind} {topic : String} (htopic : kind.topic? = some topic)
    (h : Json.parse bytes = .ok (.object members))
    (hversion : Json.find? "version" members = some (.string text))
    (htext : Fork.phase0.IsNamedBy text) :
  Event.read? topic bytes = .error e ↔ FirstForkRefusal members e
  := by
  have hpassed : ¬ Event.IsPassedOver topic bytes :=
    Event.not_isPassedOver_of_topic? (Event.not_isBlank_of_parse h) htopic
  rw [Event.read?_eq_error_iff, ← ofEvent_firstFork_iff kind h hversion htext]
  constructor
  · rintro ⟨-, kind', htopic', hread⟩
    obtain rfl := Kind.eq_of_topic? htopic htopic'
    apply hread
  · intro hread
    exact ⟨hpassed, kind, htopic, hread⟩

end FirstFork

/-- Nothing is read under the first fork. What is given it as its fork is refused for that,
whatever it is, and so is a JSON response without a header that names it. An event document that
names it is never read either, but it is refused for the fork exactly when it has data, whatever
they are, and otherwise for the lack of them, under its topic as well. -/
theorem first_fork_refused (kind : Kind) (bytes : List UInt8) :
  (∀ (value : Json) (path : String),
    Versioned.ofJson kind .phase0 value path = .error (.unsupportedFork .phase0)) ∧
  Versioned.parse kind .phase0 bytes = .error (.unsupportedFork .phase0) ∧
  Versioned.ofSsz kind .phase0 bytes = .error (.unsupportedFork .phase0) ∧
  ∀ (members : Json.Members) (text : String), Json.parse bytes = .ok (.object members) →
    Json.find? "version" members = some (.string text) → Fork.phase0.IsNamedBy text →
    (∀ e : RecordError, Versioned.ofEvent kind bytes = .error e ↔ FirstForkRefusal members e) ∧
    (∀ topic : String, kind.topic? = some topic → ∀ e : RecordError,
      Event.read? topic bytes = .error e ↔ FirstForkRefusal members e) ∧
    ∀ raw : RawResponse, raw.body = bytes → raw.consensusVersion = none → raw.IsJson →
      raw.decodeRecord kind = .error (.unsupportedFork .phase0)
  := by
  refine ⟨?_, rfl, rfl, ?_⟩
  · intro value path
    rfl
  · intro members text h hversion htext
    refine ⟨?_, ?_, ?_⟩
    · intro e
      apply ofEvent_firstFork_iff kind h hversion htext
    · intro topic htopic e
      apply read?_firstFork_iff htopic h hversion htext
    · rintro raw rfl hheader hjson
      apply RawResponse.decodeRecord_of_refused hheader hjson h hversion (.unsupported htext)

/-- A document that names the first fork. -/
def firstForkDocument (data : Json) : Json :=
  .object [("version", .string "phase0"), ("data", data)]

/-- With an empty object for its data it is refused for the fork, as an event and under its
topic. -/
theorem first_fork_refused_empty :
  let bytes := Json.encode (firstForkDocument (.object []))
  Versioned.ofEvent .optimisticUpdate bytes = .error (.unsupportedFork .phase0) ∧
  Event.read? Event.optimisticTopic bytes = .error (.unsupportedFork .phase0)
  := by
  intro bytes
  have hparse : Json.parse bytes = .ok (firstForkDocument (.object [])) :=
    Json.parse_encode ⟨trivial, trivial, trivial⟩
  have hdata : HasData [("version", .string "phase0"), ("data", .object [])] :=
    ⟨.object [], rfl, nofun⟩
  obtain ⟨-, -, -, hrefused⟩ := first_fork_refused .optimisticUpdate bytes
  obtain ⟨hevent, hread, -⟩ := hrefused _ "phase0" hparse rfl (by decide)
  constructor
  · apply (hevent _).mpr (.unsupported hdata)
  · apply (hread Event.optimisticTopic rfl _).mpr (.unsupported hdata)

/-- With `null` for its data it is refused for that as an event, and under its topic, although as a
response it is refused for the fork. -/
theorem first_fork_missing_null :
  let document := firstForkDocument .null
  Versioned.ofEvent .optimisticUpdate (Json.encode document) = .error (.missing "data") ∧
  Event.read? Event.optimisticTopic (Json.encode document) = .error (.missing "data") ∧
  (RawResponse.ofDocument document).decodeRecord .optimisticUpdate
    = .error (.unsupportedFork .phase0)
  := by
  intro document
  have hparse : Json.parse (Json.encode document) = .ok document :=
    Json.parse_encode ⟨trivial, trivial, trivial⟩
  have hmissing : FirstForkRefusal [("version", .string "phase0"), ("data", .null)]
      (.missing "data") := by
    apply FirstForkRefusal.missing
    rintro ⟨data, hfind, hdata⟩
    apply hdata (Option.some.inj hfind).symm
  have htopic : Kind.optimisticUpdate.topic? = some Event.optimisticTopic := rfl
  have hnamed : Fork.phase0.IsNamedBy "phase0" := by decide
  have hjson : (RawResponse.ofDocument document).IsJson := by
    rintro value ⟨⟩
    decide
  refine ⟨?_, ?_, ?_⟩
  · apply (ofEvent_firstFork_iff .optimisticUpdate hparse rfl hnamed).mpr hmissing
  · apply (read?_firstFork_iff htopic hparse rfl hnamed).mpr hmissing
  · apply RawResponse.decodeRecord_of_refused rfl hjson hparse rfl (.unsupported hnamed)

end BeaconLight

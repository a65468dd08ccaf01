import BeaconLight.Proofs.Record.Event
import BeaconLight.Proofs.Record.Fault
import BeaconLight.Proofs.Response.Decoding
import BeaconLight.Proofs.Response.Negotiation

/-!
# Event documents and JSON responses

An event document and a JSON response without a header that names the fork are the same
document, and each is read in an order of its own. They are read as the same records. They fail
alike as well, unless the document is an object that names the first fork or has no text as its
version.
-/

namespace BeaconLight.RawResponse

variable {raw : RawResponse} {kind : Kind} {members : Json.Members} {text : String}

/-! ### Bodies that are refused before their data -/

theorem decodeRecord_of_contentOutcome {e : ResponseError} (hheader : raw.consensusVersion = none)
    (hcontent : raw.ContentOutcome (.error e)) :
  raw.decodeRecord kind = .error e
  := by
  apply decodeRecord_of_error
  apply Outcome.negotiate
  apply Outcome.contentRefused _ hcontent
  intro text htext
  cases hheader.symm.trans htext

theorem decodeRecord_of_malformed {fault : Json.Fault} (hheader : raw.consensusVersion = none)
    (hjson : raw.IsJson) (hbody : Json.parse raw.body = .error fault) :
  raw.decodeRecord kind = .error (.badRecord (.malformed fault))
  := by
  apply decodeRecord_of_contentOutcome hheader
  apply ContentOutcome.malformed hjson hbody

theorem decodeRecord_of_not_object {value : Json} (hheader : raw.consensusVersion = none)
    (hjson : raw.IsJson) (hbody : Json.parse raw.body = .ok value)
    (hvalue : ∀ members, value ≠ .object members) :
  raw.decodeRecord kind = .error (.badRecord (.wrongType Section.root "an object"))
  := by
  apply decodeRecord_of_contentOutcome hheader
  apply ContentOutcome.notObject hjson hbody hvalue

/-! ### Objects -/

theorem takeData_eq_required (members : Json.Members) :
  takeData members = liftRecord (Section.required ⟨"", members⟩ "data")
  := by
  rw [takeData, Section.required]
  split
  all_goals simp_all [liftRecord, Except.mapError, Response.dataField, Section.pathOf, Section.join]

/-- A response that names a light fork is read as the event document that it is. -/
theorem decodeRecord_of_named {fork : LightFork} (hheader : raw.consensusVersion = none)
    (hjson : raw.IsJson) (hbody : Json.parse raw.body = .ok (.object members))
    (hversion : Json.find? "version" members = some (.string text))
    (htext : fork.toFork.IsNamedBy text) :
  raw.decodeRecord kind =
    (liftRecord (Versioned.ofEvent kind raw.body)).map fun record =>
      respond fork record (otherMembers members)
  := by
  have hcontent : raw.ContentOutcome (.ok (.json members)) := .json hjson hbody
  have hnegotiate := (Outcome.body hheader hcontent hversion (.light htext)).negotiate
  rw [decodeRecord_of_json hnegotiate, takeData_eq_required,
    Versioned.ofEvent_of_named hbody hversion htext]
  cases Section.required ⟨"", members⟩ "data"
  all_goals rfl

/-- A response whose text for a version is refused is refused for that. -/
theorem decodeRecord_of_refused {e : ResponseError} (hheader : raw.consensusVersion = none)
    (hjson : raw.IsJson) (hbody : Json.parse raw.body = .ok (.object members))
    (hversion : Json.find? "version" members = some (.string text))
    (htext : ForkOutcome text (.error e)) :
  raw.decodeRecord kind = .error e
  := by
  apply decodeRecord_of_error
  apply Outcome.negotiate
  apply Outcome.bodyRefused hheader (.json hjson hbody) hversion htext

/-- Only a response that is an object and names a light fork has a record, when there is no header
to name one. -/
theorem exists_version_of_decodeRecord {response : Response (Versioned kind)}
    (hheader : raw.consensusVersion = none) (h : raw.decodeRecord kind = .ok response) :
  ∃ members text, ∃ fork : LightFork, Json.parse raw.body = .ok (.object members) ∧
    Json.find? "version" members = some (.string text) ∧ fork.toFork.IsNamedBy text
  := by
  cases hnegotiate : raw.negotiate with
  | error e =>
    rw [decodeRecord_of_error hnegotiate] at h
    cases h
  | ok negotiated =>
    have houtcome := outcome_iff.mpr hnegotiate
    cases houtcome with
    | header hclaimed => cases hheader.symm.trans hclaimed
    | @body members text fork _ hcontent hversion htext =>
      cases hcontent with
      | json _ hbody =>
        cases htext with
        | light hnamed => exact ⟨members, text, fork, hbody, hversion, hnamed⟩

/-! ### Agreement -/

/-- A document that is no object, or an object that names a light fork. -/
inductive NamesLightForkIfObject (bytes : List UInt8) : Prop
  | malformed {fault : Json.Fault} (h : Json.parse bytes = .error fault)
  | notObject {value : Json} (h : Json.parse bytes = .ok value)
    (hvalue : ∀ members, value ≠ .object members)
  | named {members : Json.Members} {text : String} {fork : LightFork}
    (h : Json.parse bytes = .ok (.object members))
    (hversion : Json.find? "version" members = some (.string text))
    (htext : fork.toFork.IsNamedBy text)

/-- The record of a response is the one that is read from it as an event document. -/
theorem ofEvent_eq_ok_iff_decodeRecord (hheader : raw.consensusVersion = none)
    (hjson : raw.IsJson) {x : Versioned kind} :
  Versioned.ofEvent kind raw.body = .ok x ↔
    ∃ response, raw.decodeRecord kind = .ok response ∧ response.data = x
  := by
  constructor
  · intro h
    obtain ⟨members, text, hbody, hversion, htext⟩ := Versioned.exists_version_of_ofEvent h
    rw [decodeRecord_of_named hheader hjson hbody hversion htext, h]
    exact ⟨_, rfl, rfl⟩
  · rintro ⟨response, h, rfl⟩
    obtain ⟨members, text, fork, hbody, hversion, htext⟩ :=
      exists_version_of_decodeRecord hheader h
    rw [decodeRecord_of_named hheader hjson hbody hversion htext] at h
    obtain ⟨record, hrecord, rfl⟩ := Except.map_eq_ok_iff.mp h
    apply Except.mapError_eq_ok_iff.mp hrecord

/-- A document that is no object or names a light fork fails alike as an event and as a
response. -/
theorem ofEvent_eq_error_iff_decodeRecord (hheader : raw.consensusVersion = none)
    (hjson : raw.IsJson) (hbody : NamesLightForkIfObject raw.body) {e : RecordError} :
  Versioned.ofEvent kind raw.body = .error e ↔ raw.decodeRecord kind = .error (.badRecord e)
  := by
  cases hbody with
  | malformed hparse =>
    rw [Versioned.ofEvent_of_malformed hparse, decodeRecord_of_malformed hheader hjson hparse]
    simp
  | notObject hparse hvalue =>
    rw [Versioned.ofEvent_of_not_object hparse hvalue,
      decodeRecord_of_not_object hheader hjson hparse hvalue]
    simp
  | named hparse hversion htext =>
    rw [decodeRecord_of_named hheader hjson hparse hversion htext, Except.map_eq_error_iff,
      liftRecord, Except.mapError_eq_error_iff]
    simp

/-- Reading an event document and decoding a JSON response agree, when no header names the fork.
They give the same records. When the document is no JSON, no object or names a light fork, they
fail with the same error; and when its version is the name of no fork both report that text. -/
theorem event_and_response_agree (kind : Kind) (raw : RawResponse)
    (hheader : raw.consensusVersion = none) (hjson : raw.IsJson) :
  (∀ x, Versioned.ofEvent kind raw.body = .ok x ↔
    ∃ response, raw.decodeRecord kind = .ok response ∧ response.data = x) ∧
  (NamesLightForkIfObject raw.body → ∀ e,
    Versioned.ofEvent kind raw.body = .error e ↔
      raw.decodeRecord kind = .error (.badRecord e)) ∧
  ∀ members text, Json.parse raw.body = .ok (.object members) →
    Json.find? "version" members = some (.string text) →
    (∀ fork : Fork, ¬ fork.IsNamedBy text) →
    Versioned.ofEvent kind raw.body = .error (.unknownFork text) ∧
      raw.decodeRecord kind = .error (.unknownFork text)
  := by
  refine ⟨?_, ?_, ?_⟩
  · intro x
    apply ofEvent_eq_ok_iff_decodeRecord hheader hjson
  · intro hbody e
    apply ofEvent_eq_error_iff_decodeRecord hheader hjson hbody
  · intro members text hbody hversion htext
    constructor
    · apply Versioned.ofEvent_of_unknown hbody hversion htext
    · apply decodeRecord_of_refused hheader hjson hbody hversion (.unknown htext)

/-- A JSON response with a document for its body. -/
def ofDocument (document : Json) : RawResponse :=
  ⟨some "application/json; charset=utf-8", none, [], Json.encode document⟩

/-- The envelope of the zero finality update is decoded to that, an envelope without data is
refused for them, and one that names no fork for the name. -/
theorem event_and_response_agree_zeroFinality :
  (∀ document, (ofDocument document).IsJson) ∧
  (∃ response,
    (ofDocument Versioned.zeroFinality.envelope).decodeRecord .finalityUpdate = .ok response ∧
      response.data = Versioned.zeroFinality) ∧
  (ofDocument (.object [("version", .string "altair")])).decodeRecord .finalityUpdate
    = .error (.badRecord (.missing "data")) ∧
  (ofDocument (.object [("version", .string "electra")])).decodeRecord .finalityUpdate
    = .error (.unknownFork "electra")
  := by
  have hjson (document : Json) : (ofDocument document).IsJson := by
    rintro value ⟨⟩
    decide
  have hversion (text : String) :
      Json.parse (Json.encode (.object [("version", .string text)]))
        = .ok (.object [("version", .string text)]) :=
    Json.parse_encode ⟨trivial, trivial⟩
  have hnamed : LightFork.altair.toFork.IsNamedBy "altair" := by decide
  refine ⟨hjson, ?_, ?_, ?_⟩
  · obtain ⟨hrecords, -, -⟩ := event_and_response_agree .finalityUpdate
      (ofDocument Versioned.zeroFinality.envelope) rfl (hjson _)
    apply (hrecords Versioned.zeroFinality).mp
    apply Versioned.ofEvent_envelope
  · obtain ⟨-, hfaults, -⟩ := event_and_response_agree .finalityUpdate
      (ofDocument (.object [("version", .string "altair")])) rfl (hjson _)
    apply (hfaults (.named (hversion "altair") rfl hnamed) _).mp
    show Versioned.ofEvent .finalityUpdate (Json.encode _) = _
    rw [Versioned.ofEvent_of_named (hversion "altair") rfl hnamed]
    rfl
  · obtain ⟨-, -, hunknown⟩ := event_and_response_agree .finalityUpdate
      (ofDocument (.object [("version", .string "electra")])) rfl (hjson _)
    have htext (fork : Fork) : ¬ fork.IsNamedBy "electra" := by
      cases fork
      all_goals decide
    apply (hunknown _ "electra" (hversion "electra") rfl htext).2

end BeaconLight.RawResponse

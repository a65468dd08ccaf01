import BeaconLight.Proofs.Response.Decoding
import BeaconLight.Proofs.Response.Negotiation
import BeaconLight.Proofs.Schema.Relocation

/-!
# Records within documents

The path that a record is read at does nothing but say where the fields in its errors are. So an
element of a list of updates is reported for what it would be reported for by itself, with the
place of the element in front.
-/

namespace BeaconLight

namespace Versioned

theorem isBelowRoot_names (kind : Kind) (shape : Shape) :
  ∀ name ∈ (Layout.fields (kind.Record shape.Header)).names, Section.IsBelowRoot name
  := by
  cases kind
  all_goals
    cases shape
    all_goals decide

/-- A record is read at a path as at the root, with the fields in errors relocated. -/
theorem ofJson_relocate (kind : Kind) (fork : Fork) (value : Json) {path : String}
    (hpath : path ≠ "") :
  ofJson kind fork value path = (ofJson kind fork value "").mapError (.relocate path)
  := by
  unfold ofJson
  cases fork.light? with
  | none => rfl
  | some light =>
    apply Except.map_eq_mapError
    apply Layout.ofJson_relocate hpath (isBelowRoot_names kind light.shape)

end Versioned

namespace RawResponse

variable {raw : RawResponse} {fork : LightFork} {members : Json.Members} {items : List Json}

/-- The elements of a list of updates are reported for the first that is not read by itself, with
the fields in its error relocated to the element. -/
theorem readElements_eq_error_iff {e : RecordError} :
  readElements fork 0 items = .error e ↔
    ∃ index item cause, items[index]? = some item ∧
      Versioned.ofJson .update fork.toFork item "" = .error cause ∧
      (∀ j < index, ∀ other, items[j]? = some other →
        ∃ x, Versioned.ofJson .update fork.toFork other "" = .ok x) ∧
      e = cause.relocate (Section.element Response.dataField index)
  := by
  have hrelocate (item : Json) (index : Nat) :
      Versioned.ofJson .update fork.toFork item (Section.element Response.dataField index)
        = (Versioned.ofJson .update fork.toFork item "").mapError
          (.relocate (Section.element Response.dataField index)) :=
    Versioned.ofJson_relocate _ _ _ (Section.isBelowRoot_element _ _).ne_empty
  rw [readElements_eq_mapM, Except.mapM_zipIdx_eq_error_iff]
  simp only [hrelocate, Except.mapError_eq_error_iff, Except.mapError_eq_ok_iff, Nat.zero_add]
  constructor
  · rintro ⟨index, item, hitem, ⟨cause, hcause, rfl⟩, hbefore⟩
    exact ⟨index, item, cause, hitem, hcause, hbefore, rfl⟩
  · rintro ⟨index, item, cause, hitem, hcause, hbefore, rfl⟩
    exact ⟨index, item, hitem, ⟨cause, hcause, rfl⟩, hbefore⟩

/-- A list of updates fails with the error of its first element that is not read by itself. -/
theorem decodeUpdates_eq_error_iff (h : raw.negotiate = .ok (fork, .json members))
    (hdata : Json.find? Response.dataField members = some (.array items)) {e : ResponseError} :
  raw.decodeUpdates = .error e ↔
    ∃ index item cause, items[index]? = some item ∧
      Versioned.ofJson .update fork.toFork item "" = .error cause ∧
      (∀ j < index, ∀ other, items[j]? = some other →
        ∃ x, Versioned.ofJson .update fork.toFork other "" = .ok x) ∧
      e = .badRecord (cause.relocate (Section.element Response.dataField index))
  := by
  rw [decodeUpdates_of_json h hdata, Except.map_eq_error_iff, liftRecord,
    Except.mapError_eq_error_iff]
  simp only [readElements_eq_error_iff]
  constructor
  · rintro ⟨_, ⟨index, item, cause, hitem, hcause, hbefore, rfl⟩, rfl⟩
    exact ⟨index, item, cause, hitem, hcause, hbefore, rfl⟩
  · rintro ⟨index, item, cause, hitem, hcause, hbefore, rfl⟩
    exact ⟨_, ⟨index, item, cause, hitem, hcause, hbefore, rfl⟩, rfl⟩

end RawResponse

/-- The path that a record is read at relabels its errors and does nothing else: the same record is
read as at the root, and an error is the one at the root, with its field relocated if it has one.
So the error of a list of updates is that of the first element that is not read by itself,
relocated to the element. -/
theorem path_relabels_errors :
  (∀ (kind : Kind) (fork : Fork) (value : Json) (path : String), path ≠ "" →
    (∀ x, Versioned.ofJson kind fork value path = .ok x ↔
      Versioned.ofJson kind fork value "" = .ok x) ∧
    ∀ e, Versioned.ofJson kind fork value path = .error e ↔
      ∃ cause, Versioned.ofJson kind fork value "" = .error cause ∧ e = cause.relocate path) ∧
  ∀ (raw : RawResponse) (fork : LightFork) (members : Json.Members) (items : List Json),
    raw.negotiate = .ok (fork, .json members) →
    Json.find? Response.dataField members = some (.array items) →
    ∀ e, raw.decodeUpdates = .error e ↔
      ∃ index item cause, items[index]? = some item ∧
        Versioned.ofJson .update fork.toFork item "" = .error cause ∧
        (∀ j < index, ∀ other, items[j]? = some other →
          ∃ x, Versioned.ofJson .update fork.toFork other "" = .ok x) ∧
        e = .badRecord (cause.relocate (Section.element Response.dataField index))
  := by
  constructor
  · intro kind fork value path hpath
    rw [Versioned.ofJson_relocate kind fork value hpath]
    constructor
    · intro x
      apply Except.mapError_eq_ok_iff
    · intro e
      rw [Except.mapError_eq_error_iff]
      simp only [eq_comm]
  · intro raw fork members items h hdata e
    apply RawResponse.decodeUpdates_eq_error_iff h hdata

/-- An update whose attested header has no beacon block header. -/
def headlessUpdate : Json :=
  .object [("attested_header", .object [("beacon", .null)])]

/-- A response with that update alone, and a header that names its fork. -/
def headlessResponse : RawResponse :=
  ⟨none, some "altair", [], Json.encode (.object [("data", .array [headlessUpdate])])⟩

/-- At the root the update is reported for a field of its attested header and at a path for that
field there, and in a response for that field of its first element; a list in place of an update is
reported where it stands. -/
theorem path_relabels_errors_headless :
  Versioned.ofJson .update .altair headlessUpdate ""
    = .error (.missing "attested_header.beacon") ∧
  Versioned.ofJson .update .altair headlessUpdate "update"
    = .error (.missing "update.attested_header.beacon") ∧
  Versioned.ofJson .update .altair (.array []) "update"
    = .error (.wrongType "update" "an object") ∧
  headlessResponse.decodeUpdates
    = .error (.badRecord (.missing "data[0].attested_header.beacon"))
  := by
  have hroot : Versioned.ofJson .update .altair headlessUpdate ""
      = .error (.missing "attested_header.beacon") := rfl
  have hlist : Versioned.ofJson .update .altair (.array []) ""
      = .error (.wrongType "<root>" "an object") := rfl
  have hparse : Json.parse headlessResponse.body
      = .ok (.object [("data", .array [headlessUpdate])]) :=
    Json.parse_encode ⟨⟨⟨⟨trivial, trivial⟩, trivial⟩, trivial⟩, trivial⟩
  have hnegotiate : headlessResponse.negotiate
      = .ok (.altair, .json [("data", .array [headlessUpdate])]) := by
    apply RawResponse.Outcome.negotiate
    apply RawResponse.Outcome.header rfl (.light (by decide))
    apply RawResponse.ContentOutcome.json _ hparse
    rintro value ⟨⟩
  obtain ⟨hpath, hupdates⟩ := path_relabels_errors
  refine ⟨hroot, ?_, ?_, ?_⟩
  · apply ((hpath .update .altair headlessUpdate "update" (by decide)).2 _).mpr
    exact ⟨_, hroot, by decide⟩
  · apply ((hpath .update .altair (.array []) "update" (by decide)).2 _).mpr
    exact ⟨_, hlist, by decide⟩
  · apply (hupdates headlessResponse .altair _ _ hnegotiate rfl _).mpr
    refine ⟨0, headlessUpdate, _, rfl, hroot, ?_, by decide⟩
    rintro j ⟨⟩

end BeaconLight

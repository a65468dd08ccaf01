import BeaconLight.Proofs.Record.Json
import BeaconLight.Proofs.Record.Ssz
import BeaconLight.Proofs.Schema.Place

/-!
# Faults in the document of a record

When the document of a record has one fault, that fault is the one reported. Taking away a field
of the document, or making a field or an element of a list `null`, or an element empty, is reported
as missing at exactly its path. Any other change at one place is read with the rest of the record
as it was, or reported at the path of that place or within it.
-/

namespace BeaconLight.Versioned

variable {kind : Kind}

/-- A place in the documents of a record. -/
abbrev Place (x : Versioned kind) : Type :=
  (Layout.schema (kind.Record x.fork.shape.Header)).Place

/-- The record with something put at a place of it. -/
def setAt (x : Versioned kind) (p : x.Place) (component : p.Component) : Versioned kind :=
  ⟨x.fork, Layout.ofValues (p.set component (Layout.toValues x.data))⟩

/-- The document of a record with something put at a place is that of the record, changed there. -/
theorem toJson_setAt (x : Versioned kind) (p : x.Place) (component : p.Component) :
  (x.setAt p component).toJson = p.put (some (p.toJson component)) x.toJson
  := Layout.toJson_set p (isReadable kind x.fork.shape) component x.data

/-- When a record that is read is changed at a place of its document, it is read as what is now at
that place, put there. -/
theorem ofJson_put {fork : Fork} {json : Json} {path : String} {x : Versioned kind}
    (h : ofJson kind fork json path = .ok x) (p : x.Place) {found : Option Json}
    (hfound : p.isField = true ∨ found.isSome = true) :
  ofJson kind fork (p.put found json) path = (p.read found path).map (x.setAt p)
  := by
  rw [ofJson] at h
  cases hlight : fork.light? with
  | none =>
    rw [hlight] at h
    cases h
  | some light =>
    rw [hlight] at h
    obtain ⟨data, hdata, rfl⟩ := Except.map_eq_ok_iff.mp h
    rw [ofJson, hlight]
    dsimp only
    rw [Layout.ofJson_put p (isReadable kind light.shape) hfound hdata]
    apply Except.map_map

theorem empty_not_mem_names (kind : Kind) (shape : Shape) :
  "" ∉ (Layout.fields (kind.Record shape.Header)).names
  := by
  cases kind
  all_goals
    cases shape
    all_goals decide

theorem path_ne_empty {x : Versioned kind} (p : x.Place) (path : String) :
  p.path path ≠ ""
  := Schema.Place.path_ne_empty_of_names (empty_not_mem_names kind x.fork.shape) p path

/-- A single fault in a document is the one reported. When a document is read and then changed at
one place, a field that is taken away, a field or element that becomes `null` and an element that
becomes empty are reported as missing at the path of the place, which is not empty. With any other
value there the document is read as the record with something put at that place, whose document is
the same elsewhere, or an error is reported at the path of the place or within it. -/
theorem put_read_or_blamed {fork : Fork} {json : Json} {path : String} {x : Versioned kind}
    (h : ofJson kind fork json path = .ok x) (p : x.Place) :
  p.path path ≠ "" ∧
  (p.isField = true → ofJson kind fork (p.put none json) path = .error (.missing (p.path path))) ∧
  ofJson kind fork (p.put (some .null) json) path = .error (.missing (p.path path)) ∧
  (p.isField = false →
    ofJson kind fork (p.put (some (.string "")) json) path = .error (.missing (p.path path))) ∧
  ∀ value,
    (∃ component, ofJson kind fork (p.put (some value) json) path = .ok (x.setAt p component) ∧
      (x.setAt p component).toJson = p.put (some (p.toJson component)) x.toJson) ∨
    ∃ e, ofJson kind fork (p.put (some value) json) path = .error e ∧ e.IsWithin (p.path path)
  := by
  have hpath := path_ne_empty p path
  refine ⟨hpath, ?_, ?_, ?_, ?_⟩
  · intro hfield
    rw [ofJson_put h p (.inl hfield), p.read_none]
    rfl
  · rw [ofJson_put h p (.inr rfl), p.read_null]
    rfl
  · intro hfield
    rw [ofJson_put h p (.inr rfl), p.read_empty hfield]
    rfl
  · intro value
    rw [ofJson_put h p (.inr rfl)]
    cases hread : p.read (some value) path with
    | ok component =>
      left
      exact ⟨component, rfl, toJson_setAt x p component⟩
    | error e =>
      right
      exact ⟨e, rfl, p.isWithin_of_read hpath hread⟩

/-- The finality update of the first fork with light client data whose bytes are all zero. -/
def zeroFinality : Versioned .finalityUpdate :=
  let header : AltairHeader := ⟨⟨0, 0, zeros 32, zeros 32, zeros 32⟩⟩
  ⟨.altair, header, header, ⟨List.replicate 6 (zeros 32), rfl⟩, ⟨zeros 64, zeros 96⟩, 0⟩

/-- The third element of its finality branch. -/
def zeroSibling : zeroFinality.Place :=
  .inside (.there (.there .here)) (.element ⟨2, by decide⟩)

/-- The zero finality update is read, and an element of its finality branch that becomes `null` or
empty is missing. -/
theorem put_read_or_blamed_zeroFinality :
  ofJson .finalityUpdate .altair zeroFinality.toJson "" = .ok zeroFinality ∧
  ofJson .finalityUpdate .altair (zeroSibling.put (some .null) zeroFinality.toJson) ""
    = .error (.missing "finality_branch[2]") ∧
  ofJson .finalityUpdate .altair (zeroSibling.put (some (.string "")) zeroFinality.toJson) ""
    = .error (.missing "finality_branch[2]")
  := by
  have hzero : ofJson .finalityUpdate .altair zeroFinality.toJson "" = .ok zeroFinality :=
    ofJson_toJson zeroFinality ""
  have hpath : zeroSibling.path "" = "finality_branch[2]" := by decide
  obtain ⟨-, -, hnull, hempty, -⟩ := put_read_or_blamed hzero zeroSibling
  rw [hpath] at hnull hempty
  exact ⟨hzero, hnull, hempty rfl⟩

end BeaconLight.Versioned

import BeaconLight.Proofs.Chain.Fork
import BeaconLight.Proofs.Schema.Blame
import BeaconLight.Proofs.Schema.Document
import BeaconLight.Record.Versioned

/-!
# Records and their JSON

A record is read from the JSON values that stand for it, wherever in a document they are.
Every light client record is read back from its JSON text under its fork, so two records of
one fork with the same text are the same record.
-/

namespace BeaconLight

namespace Versioned

variable {kind : Kind}

/-- A JSON value stands for a record of a fork. -/
def DenotedBy (x : Versioned kind) (json : Json) : Prop :=
  (Layout.schema (kind.Record x.fork.shape.Header)).Denotes json (Layout.toValues x.data)

/-- A record is read exactly at its fork and from the values that stand for it. -/
theorem ofJson_eq_ok_iff {fork : Fork} {json : Json} {path : String} {x : Versioned kind} :
  ofJson kind fork json path = .ok x ↔ x.fork.toFork = fork ∧ x.DenotedBy json
  := by
  rw [← Fork.light?_eq_some_iff, ofJson]
  cases hlight : fork.light? with
  | none =>
    constructor
    · rintro ⟨⟩
    · rintro ⟨⟨⟩, -⟩
  | some light =>
    dsimp only
    rw [Except.map_eq_ok_iff]
    constructor
    · rintro ⟨data, hdata, rfl⟩
      exact ⟨rfl, Layout.ofJson_eq_ok_iff.mp hdata⟩
    · rintro ⟨hfork, hx⟩
      obtain ⟨light', data⟩ := x
      obtain rfl := Option.some.inj hfork
      exact ⟨data, Layout.ofJson_eq_ok_iff.mpr hx, rfl⟩

/-- Where a record stands in a document does not matter to what is read. -/
theorem ofJson_eq_ok_iff_of_path {fork : Fork} {json : Json} (path path' : String)
    {x : Versioned kind} :
  ofJson kind fork json path = .ok x ↔ ofJson kind fork json path' = .ok x
  := by rw [ofJson_eq_ok_iff, ofJson_eq_ok_iff]

/-- A record that is read at a light fork is of that fork. -/
theorem fork_of_ofJson {fork : LightFork} {json : Json} {path : String} {x : Versioned kind}
    (h : ofJson kind fork.toFork json path = .ok x) :
  x.fork = fork
  := LightFork.toFork_injective (ofJson_eq_ok_iff.mp h).1

theorem ne_null_of_ofJson {fork : Fork} {json : Json} {path : String} {x : Versioned kind}
    (h : ofJson kind fork json path = .ok x) :
  json ≠ .null
  := by
  obtain ⟨-, members, rfl, -⟩ := ofJson_eq_ok_iff.mp h
  rintro ⟨⟩

/-- A record of a light fork that is not read is reported within its path, unless that is the
root. -/
theorem isWithin_of_ofJson {fork : LightFork} {json : Json} {path : String} (hpath : path ≠ "")
    {e : RecordError} (h : ofJson kind fork.toFork json path = .error e) :
  e.IsWithin path
  := by
  rw [ofJson, fork.light?_toFork] at h
  apply Layout.isWithin_of_ofJson hpath (Except.map_eq_error_iff.mp h)

/-- The fields of every record have different names at each level, and none of its lists is
empty. -/
theorem isReadable (kind : Kind) (shape : Shape) :
  (Layout.schema (kind.Record shape.Header)).isReadable = true
  := by
  cases kind
  all_goals
    cases shape
    all_goals decide

theorem depth_le (kind : Kind) (shape : Shape) :
  (Layout.schema (kind.Record shape.Header)).depth ≤ 4
  := by
  cases kind
  all_goals
    cases shape
    all_goals decide

/-- A record is read back from its JSON, wherever that stands. -/
theorem ofJson_toJson (x : Versioned kind) (path : String) :
  ofJson kind x.fork.toFork x.toJson path = .ok x
  := by
  have hlight : x.fork.toFork.light? = some x.fork := Fork.light?_eq_some_iff.mpr rfl
  rw [ofJson, hlight, toJson]
  dsimp only
  rw [Layout.ofJson_toJson (isReadable kind x.fork.shape)]
  rfl

theorem isPlain_toJson {depth : Nat} (hdepth : 4 ≤ depth) (x : Versioned kind) :
  Json.IsPlain depth x.toJson
  := by
  apply Layout.isPlain_toJson
  apply Nat.le_trans (depth_le kind x.fork.shape) hdepth

/-- A record is read back from the text of its JSON. -/
theorem parse_encode (x : Versioned kind) :
  parse kind x.fork.toFork (Json.encode x.toJson) = .ok x
  := by
  have hlight : x.fork.toFork.light? ≠ none := by
    rw [Fork.light?_eq_some_iff.mpr rfl]
    intro h
    cases h
  rw [parse, if_neg hlight, Json.parse_encode (x.isPlain_toJson (by decide))]
  apply x.ofJson_toJson

/-- A record is read back from the text of its JSON, and records of one fork that have the
same text are the same. -/
theorem parse_encode_and_encode_injective (x : Versioned kind) :
  parse kind x.fork.toFork (Json.encode x.toJson) = .ok x ∧
    ∀ y : Versioned kind, y.fork = x.fork → Json.encode y.toJson = Json.encode x.toJson → y = x
  := by
  constructor
  · apply x.parse_encode
  · intro y hfork htext
    have hy := y.parse_encode
    rw [hfork, htext, x.parse_encode] at hy
    exact (Except.ok.inj hy).symm

end Versioned

end BeaconLight

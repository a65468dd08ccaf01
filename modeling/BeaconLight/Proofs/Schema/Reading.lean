import BeaconLight.Proofs.Record.Section
import BeaconLight.Schema.Document

/-!
# What a JSON value stands for

`Schema.Denotes` says which value of a schema a JSON value stands for: decimal text for an
integer, hexadecimal text for bytes, and an object for a record, in which the members that
the schema names stand for its fields and any others are ignored. A record is read exactly
from the values that stand for it, so where in a document it stands does not matter.
-/

namespace BeaconLight

mutual

/-- A JSON value stands for a value of a schema. -/
def Schema.Denotes : (s : Schema) → Json → s.Value → Prop
  | .uint width, json, value => json.SpellsNumber (BitVec.toNat (w := 8 * width) value)
  | .bytes _ _, json, value => json.SpellsBytes value.val
  | .byteList _, json, value => json.SpellsBytes value.val
  | .byteVectors _ _, json, value =>
    ∃ items, json = .array items ∧ items ≠ [] ∧
      List.Forall₂ (fun item bytes => item ≠ .string "" ∧ item.SpellsBytes bytes.val)
        items value.val
  | .record fields, json, values => ∃ members, json = .object members ∧ fields.Denote members values

/-- The members of an object stand for the values of the fields of a record. -/
def Fields.Denote : (f : Fields) → Json.Members → f.Values → Prop
  | .nil, _, _ => True
  | .cons name schema rest, members, (value, values) =>
    (∃ json, Json.find? name members = some json ∧ schema.Denotes json value)
      ∧ rest.Denote members values

end

/-- A record is read from a member by reading its fields from the section there. -/
theorem Schema.readMember_record_eq_ok_iff
    {name : String} {parent : Section} {f : Fields} {values : f.Values} :
  (Schema.record f).readMember name parent = .ok values ↔
    ∃ members, Json.find? name parent.members = some (.object members) ∧
      f.read ⟨parent.pathOf name, members⟩ = .ok values
  := by
  show (do
    let inner ← parent.child name
    f.read inner) = Except.ok values ↔ _
  rw [Except.bind_eq_ok_iff]
  constructor
  · rintro ⟨inner, hchild, hread⟩
    obtain ⟨members, hfind, rfl⟩ := Section.child_eq_ok_iff.mp hchild
    exact ⟨members, hfind, hread⟩
  · rintro ⟨members, hfind, hread⟩
    exact ⟨_, Section.child_eq_ok_iff.mpr ⟨members, hfind, rfl⟩, hread⟩

/-- Fields are read when the first is and the others are. -/
theorem Fields.read_cons_eq_ok_iff
    {name : String} {schema : Schema} {rest : Fields} {s : Section} {value : schema.Value}
    {values : rest.Values} :
  (Fields.cons name schema rest).read s = .ok (value, values) ↔
    schema.readMember name s = .ok value ∧ rest.read s = .ok values
  := by
  show (do
    let value ← schema.readMember name s
    let values ← rest.read s
    return (value, values)) = Except.ok (value, values) ↔ _
  rw [Except.bind_eq_ok_iff]
  constructor
  · rintro ⟨value', hvalue, h⟩
    obtain ⟨values', hvalues, heq⟩ := Except.bind_eq_ok_iff.mp h
    obtain ⟨rfl, rfl⟩ := Prod.mk.inj (Except.ok.inj heq)
    exact ⟨hvalue, hvalues⟩
  · rintro ⟨hvalue, hvalues⟩
    exact ⟨value, hvalue, Except.bind_eq_ok_iff.mpr ⟨values, hvalues, rfl⟩⟩

/-! ### What a reader looks at -/

section Congr

variable {path name : String} {members members' : Json.Members}

/-- A member is read from what is found under its name. -/
theorem Schema.readMember_congr (s : Schema)
    (hfind : Json.find? name members' = Json.find? name members) :
  s.readMember name ⟨path, members'⟩ = s.readMember name ⟨path, members⟩
  := by
  have hrequired : Section.required ⟨path, members'⟩ name = Section.required ⟨path, members⟩ name :=
    Section.required_congr hfind
  cases s with
  | uint width => exact congrArg (· >>= _) hrequired
  | bytes size style => exact congrArg (· >>= _) hrequired
  | byteList limit => exact congrArg (· >>= _) hrequired
  | byteVectors count size => exact congrArg (· >>= _) hrequired
  | record fields => exact congrArg (fun found => (found >>= _) >>= fields.read) hrequired

/-- Fields are read from what is found under their names. -/
theorem Fields.read_congr :
  (f : Fields) → (∀ name ∈ f.names, Json.find? name members' = Json.find? name members) →
    f.read ⟨path, members'⟩ = f.read ⟨path, members⟩
  | .nil, _ => rfl
  | .cons name schema rest, h => by
    obtain ⟨hname, hrest⟩ := List.forall_mem_cons.mp h
    rw [Fields.read, Fields.read, schema.readMember_congr hname, rest.read_congr hrest]

theorem Schema.readMember_record {fields : Fields} {inner : Json.Members}
    (h : Json.find? name members = some (.object inner)) :
  (Schema.record fields).readMember name ⟨path, members⟩
    = fields.read ⟨Section.join path name, inner⟩
  := by
  show (Section.child ⟨path, members⟩ name >>= fields.read) = _
  rw [Section.child_eq_ok_iff.mpr ⟨inner, h, rfl⟩]
  rfl

end Congr

/-! ### Reading and meaning -/

mutual

/-- A member is read exactly as the value that it stands for. -/
theorem Schema.readMember_eq_ok_iff {name : String} {parent : Section} :
  (s : Schema) → (value : s.Value) →
    (s.readMember name parent = .ok value ↔
      ∃ json, Json.find? name parent.members = some json ∧ s.Denotes json value)
  | .uint _, _ => Section.number_eq_ok_iff
  | .bytes _ _, _ => Section.fixedBytes_eq_ok_iff
  | .byteList _, _ => Section.byteList_eq_ok_iff
  | .byteVectors _ _, value => by
    apply Section.byteVectors_eq_ok_iff.trans
    constructor
    · rintro ⟨items, hfind, h⟩
      exact ⟨_, hfind, items, rfl, h⟩
    · rintro ⟨_, hfind, items, rfl, h⟩
      exact ⟨items, hfind, h⟩
  | .record fields, values => by
    apply Schema.readMember_record_eq_ok_iff.trans
    constructor
    · rintro ⟨members, hfind, h⟩
      exact ⟨_, hfind, members, rfl, (fields.read_eq_ok_iff values).mp h⟩
    · rintro ⟨_, hfind, members, rfl, h⟩
      exact ⟨members, hfind, (fields.read_eq_ok_iff values).mpr h⟩

/-- The fields of a record are read exactly as the values that the members stand for. -/
theorem Fields.read_eq_ok_iff {s : Section} :
  (f : Fields) → (values : f.Values) → (f.read s = .ok values ↔ f.Denote s.members values)
  | .nil, _ => by
    constructor
    · intro _
      trivial
    · intro _
      rfl
  | .cons name schema rest, (value, values) => by
    apply Fields.read_cons_eq_ok_iff.trans
    rw [schema.readMember_eq_ok_iff value, rest.read_eq_ok_iff values]
    rfl

end

/-- A record is read exactly from the values that stand for it, wherever they are. -/
theorem Layout.ofJson_eq_ok_iff {α : Type} [Layout α] {json : Json} {path : String} {x : α} :
  ofJson α json path = .ok x ↔ (schema α).Denotes json (toValues x)
  := by
  rw [ofJson, Except.bind_eq_ok_iff]
  constructor
  · rintro ⟨inner, hinner, h⟩
    obtain ⟨values, hvalues, hx⟩ := Except.bind_eq_ok_iff.mp h
    obtain rfl := Except.ok.inj hx
    obtain ⟨members, rfl, rfl⟩ := Section.ofJson_eq_ok_iff.mp hinner
    refine ⟨members, rfl, ?_⟩
    rw [toValues_ofValues]
    exact ((fields α).read_eq_ok_iff values).mp hvalues
  · rintro ⟨members, rfl, h⟩
    refine ⟨⟨path, members⟩, rfl, Except.bind_eq_ok_iff.mpr ⟨toValues x, ?_, ?_⟩⟩
    · apply ((fields α).read_eq_ok_iff _).mpr h
    · rw [ofValues_toValues]
      rfl

end BeaconLight

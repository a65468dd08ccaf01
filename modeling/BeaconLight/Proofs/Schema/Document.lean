import BeaconLight.Proofs.Hex
import BeaconLight.Proofs.Json.Members
import BeaconLight.Proofs.Json.Parser
import BeaconLight.Proofs.Schema.Reading
import BeaconLight.Proofs.Text.Digits

/-!
# Reading a value back from its JSON

A value is read back from its JSON when the fields of every record in its schema have
different names and no list in it is empty, which `isReadable` checks. It is read back from
the text of that JSON when besides its schema is nested no deeper than the parser goes.
-/

namespace BeaconLight

mutual

/-- The fields of each record in the schema have different names, and its lists have
elements. -/
def Schema.isReadable : Schema → Bool
  | .uint _ | .bytes _ _ | .byteList _ => true
  | .byteVectors count _ => count != 0
  | .record fields => decide fields.names.Nodup && fields.areReadable

/-- Each of the fields is readable. -/
def Fields.areReadable : Fields → Bool
  | .nil => true
  | .cons _ schema rest => schema.isReadable && rest.areReadable

end

theorem Fields.map_fst_toMembers :
  (f : Fields) → (values : f.Values) → (f.toMembers values).map Prod.fst = f.names
  | .nil, _ => rfl
  | .cons name _ rest, values => congrArg (name :: ·) (rest.map_fst_toMembers values.2)

theorem Fields.find?_toMembers {f : Fields} (h : f.names.Nodup) (values : f.Values) :
  ∀ member ∈ f.toMembers values, Json.find? member.1 (f.toMembers values) = some member.2
  := by
  intro member hmember
  apply Json.find?_eq_some _ hmember
  rw [f.map_fst_toMembers values]
  exact h

theorem Json.string_encode_ne_empty (bytes : List UInt8) :
  Json.string (Hex.encode bytes) ≠ .string ""
  := by
  intro h
  have hchars := congrArg String.toList (Json.string.inj h)
  rw [Hex.encode, String.toList_ofList] at hchars
  cases hchars

mutual

/-- The JSON of a value stands for it. -/
theorem Schema.denotes_toJson :
  (s : Schema) → s.isReadable = true → (value : s.Value) → s.Denotes (s.toJson value) value
  | .uint _, _, _ => ⟨_, rfl, Text.ofDecimal?_decimal _⟩
  | .bytes _ style, _, _ => ⟨_, rfl, style.decode_render _⟩
  | .byteList _, _, _ => ⟨_, rfl, HexCase.lower.decode_render _⟩
  | .byteVectors _ _, hs, elements => by
    rw [Schema.isReadable, bne_iff_ne] at hs
    refine ⟨_, rfl, ?_, ?_⟩
    · intro hnil
      rw [List.map_eq_nil_iff] at hnil
      apply hs
      rw [← elements.property, hnil]
      rfl
    · rw [List.forall₂_map_left_iff, List.forall₂_same]
      intro bytes _
      exact ⟨Json.string_encode_ne_empty bytes.val, _, rfl, HexCase.lower.decode_render _⟩
  | .record fields, hs, values => by
    rw [Schema.isReadable, Bool.and_eq_true, decide_eq_true_eq] at hs
    refine ⟨_, rfl, ?_⟩
    apply fields.denote_of_find? hs.2 values
    apply Fields.find?_toMembers hs.1

/-- Members among which those of a record are found stand for its fields. -/
theorem Fields.denote_of_find? {members : Json.Members} :
  (f : Fields) → f.areReadable = true → (values : f.Values) →
    (∀ member ∈ f.toMembers values, Json.find? member.1 members = some member.2) →
    f.Denote members values
  | .nil, _, _, _ => trivial
  | .cons name schema rest, hf, (value, values), h => by
    rw [Fields.areReadable, Bool.and_eq_true] at hf
    constructor
    · exact ⟨_, h _ List.mem_cons_self, schema.denotes_toJson hf.1 value⟩
    · apply rest.denote_of_find? hf.2 values
      intro member hmember
      exact h member (List.mem_cons_of_mem _ hmember)

end

/-- A record is read back from its JSON. -/
theorem Layout.ofJson_toJson {α : Type} [Layout α] (h : (schema α).isReadable = true) (x : α)
    (path : String) :
  ofJson α (toJson x) path = .ok x
  := by
  apply ofJson_eq_ok_iff.mpr
  exact (schema α).denotes_toJson h (toValues x)

mutual

/-- How deep the arrays and objects in the JSON of a value are nested. -/
def Schema.depth : Schema → Nat
  | .uint _ | .bytes _ _ | .byteList _ => 0
  | .byteVectors _ _ => 1
  | .record fields => fields.depth + 1

/-- How deep the arrays and objects in the JSON of the fields are nested. -/
def Fields.depth : Fields → Nat
  | .nil => 0
  | .cons _ schema rest => max schema.depth rest.depth

end

mutual

/-- The JSON of a value is plain. -/
theorem Schema.isPlain_toJson {depth : Nat} :
  (s : Schema) → s.depth ≤ depth → (value : s.Value) → Json.IsPlain depth (s.toJson value)
  | .uint _, _, _ => trivial
  | .bytes _ _, _, _ => trivial
  | .byteList _, _, _ => trivial
  | .byteVectors count size, h, value => by
    cases depth with
    | zero => cases h
    | succ depth =>
      rw [Schema.toJson, Json.IsPlain, Json.arePlain_iff]
      intro item hitem
      obtain ⟨bytes, -, rfl⟩ := List.mem_map.mp hitem
      trivial
  | .record fields, h, value => by
    cases depth with
    | zero => cases h
    | succ depth =>
      rw [Schema.toJson, Json.IsPlain]
      exact fields.membersArePlain_toMembers (Nat.le_of_succ_le_succ h) value

/-- The JSON of the fields of a record is plain. -/
theorem Fields.membersArePlain_toMembers {depth : Nat} :
  (f : Fields) → f.depth ≤ depth → (values : f.Values) →
    Json.MembersArePlain depth (f.toMembers values)
  | .nil, _, _ => trivial
  | .cons name schema rest, h, (value, values) => by
    rw [Fields.depth, Nat.max_le] at h
    rw [Fields.toMembers, Json.MembersArePlain]
    constructor
    · apply schema.isPlain_toJson h.1
    · apply rest.membersArePlain_toMembers h.2

end

theorem Layout.isPlain_toJson {α : Type} [Layout α] {depth : Nat}
    (h : (schema α).depth ≤ depth) (x : α) :
  Json.IsPlain depth (toJson x)
  := (schema α).isPlain_toJson h (toValues x)

/-- A record is read back from the text of its JSON. -/
theorem Layout.parse_encode {α : Type} [Layout α] (h : (schema α).isReadable = true)
    (hdepth : (schema α).depth ≤ Json.maxDepth) (x : α) :
  parse α (Json.encode (toJson x)) = .ok x
  := by
  rw [parse, Json.parse_encode (isPlain_toJson hdepth x)]
  apply ofJson_toJson h x

end BeaconLight

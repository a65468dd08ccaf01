import Mathlib.Data.Option.Basic
import Mathlib.Logic.Relation
import BeaconLight.Proofs.Hex.Spelling
import BeaconLight.Proofs.Schema.Reading
import BeaconLight.Proofs.Text.Digits

/-!
# Spellings of JSON values

`Schema.Respells` says how a JSON value may be changed without a change to what it stands for:
the texts of numbers and bytes are spelled in other ways, and the members of an object that the
schema does not name are anything. It holds of any two JSON values that differ in these ways
alone, whether they stand for something or not.
-/

namespace BeaconLight

/-- Two JSON values are the same, or they are texts that changes of spelling lead from one to the
other. -/
def Json.SameLeaf (Spelled : String → String → Prop) (json json' : Json) : Prop :=
  json = json' ∨ ∃ text text', json = .string text ∧ json' = .string text' ∧
    Relation.EqvGen Spelled text text'

mutual

/-- A JSON value is another one with changes that do not matter to a schema. -/
def Schema.Respells : Schema → Json → Json → Prop
  | .uint _, json, json' => json.SameLeaf Text.AddsZeros json'
  | .bytes _ _, json, json' => json.SameLeaf Hex.Respells json'
  | .byteList _, json, json' => json.SameLeaf Hex.Respells json'
  | .byteVectors _ _, json, json' => json = json' ∨ ∃ items items',
    json = .array items ∧ json' = .array items' ∧
      List.Forall₂ (fun item item' => item.SameLeaf Hex.Respells item') items items'
  | .record fields, json, json' => json = json' ∨ ∃ members members',
    json = .object members ∧ json' = .object members' ∧ fields.Respell members members'

/-- The members that fields name are the same with changes that do not matter to the schemas of
the fields. Other members are not compared. -/
def Fields.Respell : Fields → Json.Members → Json.Members → Prop
  | .nil, _, _ => True
  | .cons name schema rest, members, members' =>
    Option.Rel (fun json json' => schema.Respells json json')
        (Json.find? name members) (Json.find? name members')
      ∧ rest.Respell members members'

end

theorem Schema.respells_refl (s : Schema) (json : Json) :
  s.Respells json json
  := by
  cases s
  all_goals exact .inl rfl

/-- Members that fields do not name may be added, changed and removed. -/
theorem Fields.respell_of_find? {members members' : Json.Members} :
  (f : Fields) → (∀ name ∈ f.names, Json.find? name members = Json.find? name members') →
    f.Respell members members'
  | .nil, _ => trivial
  | .cons name schema rest, h => by
    obtain ⟨hname, hrest⟩ := List.forall_mem_cons.mp h
    refine ⟨?_, rest.respell_of_find? hrest⟩
    rw [hname]
    cases Json.find? name members' with
    | none => exact .none
    | some json => exact .some (schema.respells_refl json)

/-- What changes of spelling do not matter to is the same for values that they lead between. -/
theorem Json.SameLeaf.iff {Spelled : String → String → Prop} {P : Json → Prop}
    (hP : ∀ text text', Spelled text text' → (P (.string text) ↔ P (.string text')))
    {json json' : Json} (h : json.SameLeaf Spelled json') :
  P json ↔ P json'
  := by
  rcases h with rfl | ⟨text, text', rfl, rfl, h⟩
  · rfl
  · induction h with
    | rel text text' h => apply hP text text' h
    | refl text => rfl
    | symm text text' _ ih => exact ih.symm
    | trans text text' text'' _ _ ih ih' => exact ih.trans ih'

theorem Json.SameLeaf.spellsNumber_iff {json json' : Json} (h : json.SameLeaf Text.AddsZeros json')
    (n : Nat) :
  json.SpellsNumber n ↔ json'.SpellsNumber n
  := by
  apply h.iff
  intro text more hmore
  simp only [SpellsNumber, Json.string.injEq, exists_eq_left', hmore.ofDecimal?_eq]

theorem Json.SameLeaf.spellsBytes_iff {json json' : Json} (h : json.SameLeaf Hex.Respells json')
    (bytes : List UInt8) :
  json.SpellsBytes bytes ↔ json'.SpellsBytes bytes
  := by
  apply h.iff
  intro text text' htext
  simp only [SpellsBytes, Json.string.injEq, exists_eq_left', htext.decode_iff]

theorem Json.SameLeaf.ne_empty_iff {json json' : Json} (h : json.SameLeaf Hex.Respells json') :
  json ≠ .string "" ↔ json' ≠ .string ""
  := by
  apply h.iff (P := fun json => json ≠ .string "")
  intro text text' htext
  simp only [ne_eq, Json.string.injEq, htext.eq_empty_iff]

/-- Items that are the same up to spelling stand for the same strings of bytes. -/
theorem forall₂_spellsBytes_iff {size : Nat} {items items' : List Json}
    (h : List.Forall₂ (fun item item' => item.SameLeaf Hex.Respells item') items items')
    (elements : List (Bytes size)) :
  List.Forall₂ (fun item bytes => item ≠ .string "" ∧ item.SpellsBytes bytes.val)
      items elements ↔
    List.Forall₂ (fun item bytes => item ≠ .string "" ∧ item.SpellsBytes bytes.val)
      items' elements
  := by
  induction h generalizing elements with
  | nil => rfl
  | cons hitem _ ih =>
    cases elements with
    | nil => simp
    | cons bytes rest =>
      rw [List.forall₂_cons, List.forall₂_cons, ih, hitem.ne_empty_iff, hitem.spellsBytes_iff]

mutual

/-- Changes that do not matter to a schema do not matter to what a JSON value stands for. -/
theorem Schema.denotes_iff_of_respells {json json' : Json} :
  (s : Schema) → s.Respells json json' → (value : s.Value) →
    (s.Denotes json value ↔ s.Denotes json' value)
  | .uint _, h, _ => h.spellsNumber_iff _
  | .bytes _ _, h, _ => h.spellsBytes_iff _
  | .byteList _, h, _ => h.spellsBytes_iff _
  | .byteVectors _ _, h, elements => by
    rcases h with rfl | ⟨items, items', rfl, rfl, h⟩
    · rfl
    · have hnil : items ≠ [] ↔ items' ≠ [] := by
        rw [← List.length_pos_iff, ← List.length_pos_iff, h.length_eq]
      simp only [Schema.Denotes, Json.array.injEq, exists_eq_left', hnil,
        forall₂_spellsBytes_iff h]
  | .record fields, h, values => by
    rcases h with rfl | ⟨members, members', rfl, rfl, h⟩
    · rfl
    · simp only [Schema.Denotes, Json.object.injEq, exists_eq_left',
        fields.denote_iff_of_respell h values]

/-- Changes that do not matter to fields do not matter to what members stand for. -/
theorem Fields.denote_iff_of_respell {members members' : Json.Members} :
  (f : Fields) → f.Respell members members' → (values : f.Values) →
    (f.Denote members values ↔ f.Denote members' values)
  | .nil, _, _ => Iff.rfl
  | .cons name schema rest, h, (value, values) => by
    obtain ⟨hfirst, hrest⟩ := h
    apply and_congr _ (rest.denote_iff_of_respell hrest values)
    revert hfirst
    generalize Json.find? name members = found
    generalize Json.find? name members' = found'
    intro hfirst
    cases hfirst with
    | none => rfl
    | some hjson =>
      simp only [Option.some_inj, exists_eq_left', schema.denotes_iff_of_respells hjson value]

end

end BeaconLight

import BeaconLight.Json.Printer
import BeaconLight.Proofs.Hex.Spelling
import BeaconLight.Proofs.Schema.Reading
import BeaconLight.Proofs.Text.Digits

/-!
# The canonical text of a record

`Schema.canonicalChars` renders a JSON value as the text that a record in it is written as: the
fields of the schema in their order and nothing else, without blanks, each hexadecimal text with
one mark and its digits in the case of the schema, each decimal text without zeros in front. It is
made from the JSON value alone, and what is written for the value that the JSON stands for is
this text.
-/

namespace BeaconLight

/-! ### Texts without escapes -/

/-- Characters between quotes. -/
def quoted (cs : List Char) : List Char :=
  '"' :: (cs ++ ['"'])

/-- A text whose characters need no escapes stands between quotes as it is. -/
theorem Json.stringChars_eq_quoted {cs : List Char} (h : ∀ c ∈ cs, escapeChar c = [c]) :
  stringChars (String.ofList cs) = quoted cs
  := by
  have hchars : cs.flatMap escapeChar = cs := by
    induction cs with
    | nil => rfl
    | cons c rest ih =>
      obtain ⟨hc, hrest⟩ := List.forall_mem_cons.mp h
      rw [List.flatMap_cons, hc, ih hrest, List.singleton_append]
  rw [stringChars, String.toList_ofList, hchars, quoted]

/-- Hexadecimal digits need no escapes. -/
theorem Hex.escapeChar_eq {c : Char} {n : Nat} (h : digitValue? c = some n) :
  Json.escapeChar c = [c]
  := by
  have hdigit : (digitValue? c).isSome = true := by
    rw [h]
    rfl
  revert hdigit
  refine Text.forall_of_code (lt_of_digitValue? h) ?_
  decide

/-- Digits that spell bytes need no escapes. -/
theorem Hex.Spells.escapeChar_eq {cs : List Char} {bytes : List UInt8} (h : Spells cs bytes) :
  ∀ c ∈ cs, Json.escapeChar c = [c]
  := by
  induction h with
  | nil =>
    intro c hc
    cases hc
  | cons hhigh hlow _ ih =>
    rw [List.forall_mem_cons, List.forall_mem_cons]
    exact ⟨Hex.escapeChar_eq hhigh, Hex.escapeChar_eq hlow, ih⟩

theorem Text.escapeChar_eq {c : Char} (h : c.isDigit = true) :
  Json.escapeChar c = [c]
  := by
  have hlt := lt_of_isDigit h
  revert h
  refine forall_of_code hlt ?_
  decide

/-! ### Lists of pieces -/

theorem intercalate_cons (piece : List Char) (rest : List (List Char)) :
  [','].intercalate (piece :: rest) = piece ++ rest.flatMap fun other => ',' :: other
  := by
  induction rest generalizing piece with
  | nil => rw [List.flatMap_nil, List.append_nil, List.intercalate_singleton]
  | cons next rest ih =>
    rw [List.intercalate_cons_cons, ih, List.flatMap_cons, List.append_assoc]
    rfl

theorem Json.restItemChars_eq_flatMap (items : List Json) :
  restItemChars items = (items.map chars).flatMap fun other => ',' :: other
  := by
  induction items with
  | nil => rfl
  | cons item rest ih =>
    rw [restItemChars, ih, List.map_cons, List.flatMap_cons]
    rfl

theorem Json.itemChars_eq_intercalate (items : List Json) :
  itemChars items = [','].intercalate (items.map chars)
  := by
  cases items with
  | nil => rfl
  | cons item rest =>
    rw [itemChars, restItemChars_eq_flatMap, List.map_cons, intercalate_cons]

/-- The characters of a member. -/
def Json.memberText (member : String × Json) : List Char :=
  stringChars member.1 ++ ':' :: chars member.2

theorem Json.restMemberChars_eq_flatMap (members : Members) :
  restMemberChars members = (members.map memberText).flatMap fun other => ',' :: other
  := by
  induction members with
  | nil => rfl
  | cons member rest ih =>
    rw [restMemberChars, ih, List.map_cons, List.flatMap_cons, memberText]
    simp

theorem Json.memberChars_eq_intercalate (members : Members) :
  memberChars members = [','].intercalate (members.map memberText)
  := by
  cases members with
  | nil => rfl
  | cons member rest =>
    rw [memberChars, restMemberChars_eq_flatMap, List.map_cons, intercalate_cons, memberText]
    simp

/-! ### The canonical text -/

/-- The characters of a text. -/
def Json.textChars : Json → List Char
  | .string text => text.toList
  | _ => []

/-- The items of an array. -/
def Json.items : Json → List Json
  | .array items => items
  | _ => []

/-- The members of an object. -/
def Json.members : Json → Members
  | .object members => members
  | _ => []

/-- Digits in lower case with the letter case of the address checksum. -/
def Address.checksumCase (digits : List Char) : List Char :=
  applyCase digits (halves (Keccak.digest (digits.map fun c => UInt8.ofNat c.toNat)))

/-- Digits in lower case in the case that they are written in. -/
def HexCase.apply : HexCase → List Char → List Char
  | .lower, digits => digits
  | .checksum, digits => Address.checksumCase digits

/-- The canonical form of hexadecimal text: one mark, and the digits in the case they are
written in. -/
def HexCase.canonicalChars (style : HexCase) (cs : List Char) : List Char :=
  '0' :: 'x' :: style.apply ((Hex.dropMarks cs).map Char.toLower)

mutual

/-- The canonical text of a JSON value that stands for a value of the schema. -/
def Schema.canonicalChars : Schema → Json → List Char
  | .uint _, json => quoted (Text.dropZeros json.textChars)
  | .bytes _ style, json => quoted (style.canonicalChars json.textChars)
  | .byteList _, json => quoted (HexCase.lower.canonicalChars json.textChars)
  | .byteVectors _ _, json =>
    '[' :: ([','].intercalate
      (json.items.map fun item => quoted (HexCase.lower.canonicalChars item.textChars)) ++ [']'])
  | .record fields, json =>
    '\x7b' :: ([','].intercalate (fields.canonicalMembers json.members) ++ ['\x7d'])

/-- The canonical texts of the members that stand for fields, in the order of the fields. -/
def Fields.canonicalMembers : Fields → Json.Members → List (List Char)
  | .nil, _ => []
  | .cons name schema rest, members =>
    (quoted name.toList ++ ':' ::
        schema.canonicalChars ((Json.find? name members).getD .null)) ::
      rest.canonicalMembers members

end

mutual

/-- The names of the fields of each record in the schema need no escapes. -/
def Schema.hasPlainNames : Schema → Bool
  | .uint _ | .bytes _ _ | .byteList _ | .byteVectors _ _ => true
  | .record fields => fields.havePlainNames

/-- The names of the fields, and those in their schemas, need no escapes. -/
def Fields.havePlainNames : Fields → Bool
  | .nil => true
  | .cons name schema rest =>
    (name.toList.all fun c => Json.escapeChar c == [c]) && schema.hasPlainNames &&
      rest.havePlainNames

end

/-- What is written for a number is the canonical form of its decimal text. -/
theorem Json.SpellsNumber.chars_eq {json : Json} {n : Nat} (h : json.SpellsNumber n) :
  chars (.string (Text.decimal n)) = quoted (Text.dropZeros json.textChars)
  := by
  obtain ⟨text, rfl, htext⟩ := h
  obtain ⟨-, hdigits, rfl⟩ := Text.ofDecimal?_eq_some_iff.mp htext
  rw [chars, Text.decimal, stringChars_eq_quoted, Text.toDigits_ofDigits hdigits]
  · rfl
  · intro c hc
    apply Text.escapeChar_eq
    apply Nat.isDigit_of_mem_toDigits (by decide) (by decide) hc

/-- What is written for bytes is the canonical form of their hexadecimal text. -/
theorem Json.SpellsBytes.chars_eq {json : Json} {bytes : List UInt8} (h : json.SpellsBytes bytes)
    (style : HexCase) :
  chars (.string (style.render bytes)) = quoted (style.canonicalChars json.textChars)
  := by
  obtain ⟨text, rfl, htext⟩ := h
  have hcase : Hex.Spells (style.apply (Hex.digits bytes)) bytes := by
    cases style with
    | lower => apply Hex.spells_digits
    | checksum => apply (Hex.spells_digits bytes).applyCase
  have hrender : style.render bytes
      = String.ofList ('0' :: 'x' :: style.apply (Hex.digits bytes)) := by
    cases style
    all_goals rfl
  rw [chars, hrender, stringChars_eq_quoted, Hex.digits_of_decode htext]
  · rfl
  · rw [List.forall_mem_cons, List.forall_mem_cons]
    exact ⟨by decide, by decide, hcase.escapeChar_eq⟩

mutual

/-- What is written for a value is the canonical text of a JSON value that stands for it. -/
theorem Schema.chars_toJson {json : Json} :
  (s : Schema) → s.hasPlainNames = true → (value : s.Value) → s.Denotes json value →
    Json.chars (s.toJson value) = s.canonicalChars json
  | .uint _, _, _, h => h.chars_eq
  | .bytes _ style, _, _, h => h.chars_eq style
  | .byteList _, _, _, h => h.chars_eq .lower
  | .byteVectors _ _, _, elements, h => by
    obtain ⟨items, rfl, -, hitems⟩ := h
    have hpieces : (elements.val.map fun bytes => Json.string (Hex.encode bytes.val)).map
          Json.chars
        = items.map fun item => quoted (HexCase.lower.canonicalChars item.textChars) := by
      rw [List.map_map, ← List.forall₂_eq_eq_eq, List.forall₂_map_left_iff,
        List.forall₂_map_right_iff]
      apply List.Forall₂.flip
      apply hitems.imp
      intro item bytes hitem
      exact hitem.2.chars_eq .lower
    rw [Schema.toJson, Json.chars, Json.itemChars_eq_intercalate, hpieces]
    rfl
  | .record fields, hs, values, h => by
    obtain ⟨members, rfl, hmembers⟩ := h
    rw [Schema.toJson, Json.chars, Json.memberChars_eq_intercalate,
      fields.map_memberText_toMembers hs values hmembers]
    rfl

/-- What is written for the fields of a record is the canonical text of the members that stand
for them. -/
theorem Fields.map_memberText_toMembers {members : Json.Members} :
  (f : Fields) → f.havePlainNames = true → (values : f.Values) → f.Denote members values →
    (f.toMembers values).map Json.memberText = f.canonicalMembers members
  | .nil, _, _, _ => rfl
  | .cons name schema rest, hf, (value, values), h => by
    obtain ⟨⟨json, hfind, hvalue⟩, hvalues⟩ := h
    simp only [Fields.havePlainNames, Bool.and_eq_true, List.all_eq_true, beq_iff_eq] at hf
    obtain ⟨⟨hname, hschema⟩, hrest⟩ := hf
    have hquoted : Json.stringChars name = quoted name.toList := by
      rw [← Json.stringChars_eq_quoted hname, String.ofList_toList]
    rw [Fields.toMembers, List.map_cons, Fields.canonicalMembers, hfind, Option.getD_some,
      rest.map_memberText_toMembers hrest values hvalues, Json.memberText, hquoted,
      schema.chars_toJson hschema value hvalue]

end

end BeaconLight

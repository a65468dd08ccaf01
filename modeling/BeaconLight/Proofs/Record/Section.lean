import BeaconLight.Proofs.Except
import BeaconLight.Record.Section

/-!
# Reading members

A member counts as present when it is found and is not `null`. The lemmas here say for each
accessor of a section which members it reads and as what: decimal text is read as the number
that it denotes, hexadecimal text as the bytes that it spells, and nothing else is read.
-/

namespace BeaconLight

/-- The value is the decimal text of a number. -/
def Json.SpellsNumber (value : Json) (n : Nat) : Prop :=
  ∃ text, value = .string text ∧ Text.ofDecimal? text = some n

/-- The value is the hexadecimal text of bytes. -/
def Json.SpellsBytes (value : Json) (bytes : List UInt8) : Prop :=
  ∃ text, value = .string text ∧ Hex.decode text = .ok bytes

/-- The list with an element replaced. -/
def Sized.set {α : Type} {n : Nat} (xs : Sized α n) (index : Fin n) (x : α) : Sized α n :=
  ⟨xs.val.set index x, by rw [List.length_set, xs.property]⟩

namespace Section

variable {s : Section} {name path : String} {value : Json}

/-- A member is there when it is found and is not `null`. -/
theorem required_eq_ok_iff :
  s.required name = .ok value ↔ Json.find? name s.members = some value ∧ value ≠ .null
  := by
  unfold required
  split
  case h_1 hfind => simp [hfind]
  case h_2 hfind =>
    rw [hfind]
    constructor
    · rintro ⟨⟩
    · rintro ⟨⟨⟩, hnull⟩
      exact absurd rfl hnull
  case h_3 found hnull hfind =>
    rw [hfind]
    constructor
    · rintro ⟨⟩
      refine ⟨rfl, ?_⟩
      intro hvalue
      apply hnull
      rw [hvalue]
    · rintro ⟨⟨⟩, -⟩
      rfl

theorem required_congr {members members' : Json.Members}
    (hfind : Json.find? name members' = Json.find? name members) :
  required ⟨path, members'⟩ name = required ⟨path, members⟩ name
  := by rw [required, required, pathOf, pathOf, hfind]

/-- A number is read exactly from its decimal text. -/
theorem readNumber_eq_ok_iff {bits : Nat} {n : BitVec bits} :
  readNumber bits value path = .ok n ↔ value.SpellsNumber n.toNat
  := by
  unfold readNumber
  split
  case h_1 text =>
    constructor
    · intro h
      split at h
      case h_1 => cases h
      case h_2 m hm =>
        split at h
        case isTrue hlt =>
          obtain rfl := Except.ok.inj h
          have hmod : m % 2 ^ bits = m := Nat.mod_eq_of_lt hlt
          exact ⟨text, rfl, by rw [hm, BitVec.toNat_ofNat, hmod]⟩
        case isFalse => cases h
    · rintro ⟨_, ⟨⟩, htext⟩
      have hlt : n.toNat < Nat.pow 2 bits := n.isLt
      rw [htext]
      dsimp only
      rw [if_pos hlt, BitVec.ofNat_toNat, BitVec.setWidth_eq]
  case h_2 hstring =>
    constructor
    · rintro ⟨⟩
    · rintro ⟨text, rfl, -⟩
      exact absurd rfl (hstring text)

/-- Bytes are read exactly from their hexadecimal text. -/
theorem readBytes_eq_ok_iff {bytes : List UInt8} :
  readBytes value path = .ok bytes ↔ value.SpellsBytes bytes
  := by
  unfold readBytes
  split
  case h_1 text =>
    constructor
    · intro h
      split at h
      case h_1 hdecode =>
        obtain rfl := Except.ok.inj h
        exact ⟨text, rfl, hdecode⟩
      case h_2 => cases h
    · rintro ⟨_, ⟨⟩, htext⟩
      rw [htext]
  case h_2 hstring =>
    constructor
    · rintro ⟨⟩
    · rintro ⟨text, rfl, -⟩
      exact absurd rfl (hstring text)

/-- Bytes of a fixed number are read exactly from their hexadecimal text. -/
theorem readFixed_eq_ok_iff {n : Nat} {bytes : Bytes n} :
  readFixed n value path = .ok bytes ↔ value.SpellsBytes bytes.val
  := by
  rw [readFixed, Except.bind_eq_ok_iff]
  constructor
  · rintro ⟨found, hfound, h⟩
    split at h
    case h_1 hsized =>
      obtain rfl := Except.ok.inj h
      rw [Sized.ofList?_eq_some_iff] at hsized
      rw [← hsized]
      exact readBytes_eq_ok_iff.mp hfound
    case h_2 => cases h
  · intro h
    refine ⟨bytes.val, readBytes_eq_ok_iff.mpr h, ?_⟩
    rw [Sized.ofList?_eq_some_iff.mpr rfl]
    rfl

/-- An element of a list is read exactly from hexadecimal text that is not empty. -/
theorem readElement_eq_ok_iff {n : Nat} {bytes : Bytes n} :
  readElement n value path = .ok bytes ↔ value ≠ .string "" ∧ value.SpellsBytes bytes.val
  := by
  unfold readElement
  split
  case h_1 =>
    constructor
    · rintro ⟨⟩
    · rintro ⟨-, _, ⟨⟩, -⟩
  case h_2 =>
    constructor
    · rintro ⟨⟩
    · rintro ⟨hempty, -⟩
      exact absurd rfl hempty
  case h_3 hempty =>
    rw [readFixed_eq_ok_iff]
    constructor
    · intro h
      exact ⟨hempty, h⟩
    · rintro ⟨-, h⟩
      exact h

/-- Reading the elements of a list is reading each under its index. -/
theorem readElements_eq_mapM {n : Nat} (index : Nat) (values : List Json) :
  readElements n path index values =
    (values.zipIdx index).mapM fun entry => readElement n entry.1 (element path entry.2)
  := by
  induction values generalizing index with
  | nil => rfl
  | cons value rest ih =>
    rw [readElements, ih, List.zipIdx_cons, List.mapM_cons]

/-- The elements of a list are read exactly when each is. -/
theorem readElements_eq_ok_iff {n index : Nat} {values : List Json} {elements : List (Bytes n)} :
  readElements n path index values = .ok elements ↔
    List.Forall₂ (fun value bytes => value ≠ .string "" ∧ value.SpellsBytes bytes.val)
      values elements
  := by
  rw [readElements_eq_mapM]
  apply Except.mapM_zipIdx_eq_ok_iff
  intro value index' bytes
  apply readElement_eq_ok_iff

/-- A member is read exactly when it is found and its value is, if `null` is not read. -/
theorem required_bind_eq_ok_iff {α : Type} {read : Json → Except RecordError α} {a : α}
    (hnull : read .null ≠ .ok a) :
  s.required name >>= read = .ok a ↔
    ∃ value, Json.find? name s.members = some value ∧ read value = .ok a
  := by
  simp only [Except.bind_eq_ok_iff, required_eq_ok_iff]
  constructor
  · rintro ⟨value, ⟨hfind, -⟩, hread⟩
    exact ⟨value, hfind, hread⟩
  · rintro ⟨value, hfind, hread⟩
    refine ⟨value, ⟨hfind, ?_⟩, hread⟩
    rintro rfl
    exact hnull hread

/-- A member is read as a number exactly from its decimal text. -/
theorem number_eq_ok_iff {bits : Nat} {n : BitVec bits} :
  s.number name bits = .ok n ↔
    ∃ value, Json.find? name s.members = some value ∧ value.SpellsNumber n.toNat
  := by
  rw [number, required_bind_eq_ok_iff (by rintro ⟨⟩)]
  simp only [readNumber_eq_ok_iff]

/-- A member is read as bytes of a fixed number exactly from their hexadecimal text. -/
theorem fixedBytes_eq_ok_iff {n : Nat} {bytes : Bytes n} :
  s.fixedBytes name n = .ok bytes ↔
    ∃ value, Json.find? name s.members = some value ∧ value.SpellsBytes bytes.val
  := by
  rw [fixedBytes, required_bind_eq_ok_iff (by rintro ⟨⟩)]
  simp only [readFixed_eq_ok_iff]

/-- A member is read as limited bytes exactly from their hexadecimal text. -/
theorem byteList_eq_ok_iff {limit : Nat}
    {bytes : { bytes : List UInt8 // bytes.length ≤ limit }} :
  s.byteList name limit = .ok bytes ↔
    ∃ value, Json.find? name s.members = some value ∧ value.SpellsBytes bytes.val
  := by
  rw [byteList, required_bind_eq_ok_iff (by rintro ⟨⟩)]
  simp only [Except.bind_eq_ok_iff, readBytes_eq_ok_iff]
  constructor
  · rintro ⟨value, hfind, found, hfound, h⟩
    split at h
    case isTrue => 
      obtain rfl := Except.ok.inj h
      exact ⟨value, hfind, hfound⟩
    case isFalse => cases h
  · rintro ⟨value, hfind, hbytes⟩
    exact ⟨value, hfind, bytes.val, hbytes, dif_pos bytes.property⟩

/-- A member is read as a list of byte strings exactly from the list of their hexadecimal
texts, which must not be empty. -/
theorem byteVectors_eq_ok_iff {count n : Nat} {elements : Sized (Bytes n) count} :
  s.byteVectors name count n = .ok elements ↔
    ∃ items, Json.find? name s.members = some (.array items) ∧ items ≠ [] ∧
      List.Forall₂ (fun value bytes => value ≠ .string "" ∧ value.SpellsBytes bytes.val)
        items elements.val
  := by
  rw [byteVectors, required_bind_eq_ok_iff (by rintro ⟨⟩)]
  constructor
  · rintro ⟨value, hfind, h⟩
    split at h
    case h_1 => cases h
    case h_2 items hitems =>
      obtain ⟨found, hfound, h⟩ := Except.bind_eq_ok_iff.mp h
      split at h
      case h_1 sized hsized =>
        obtain rfl := Except.ok.inj h
        rw [Sized.ofList?_eq_some_iff] at hsized
        rw [hsized, readElements_eq_ok_iff] at hfound
        exact ⟨items, hfind, hitems, hfound⟩
      case h_2 => cases h
    case h_3 => cases h
  · rintro ⟨items, hfind, hitems, hread⟩
    refine ⟨.array items, hfind, ?_⟩
    split
    case h_1 heq => exact absurd (Json.array.inj heq) hitems
    case h_2 items' _ heq =>
      obtain rfl := Json.array.inj heq
      apply Except.bind_eq_ok_iff.mpr
      refine ⟨elements.val, readElements_eq_ok_iff.mpr hread, ?_⟩
      rw [Sized.ofList?_eq_some_iff.mpr rfl]
      rfl
    case h_3 _ hother => exact absurd rfl (hother items)

/-- A list that is not empty is read element by element, and then the elements are counted. -/
theorem byteVectors_of_array {s : Section} {name : String} {items : List Json}
    (hitems : Json.find? name s.members = some (.array items)) (hnil : items ≠ [])
    (count n : Nat) :
  s.byteVectors name count n = (do
    let elements ← readElements n (s.pathOf name) 0 items
    match Sized.ofList? count elements with
    | some sized => return sized
    | none => throw (.wrongCount (s.pathOf name) count elements.length))
  := by
  rw [byteVectors, required_eq_ok_iff.mpr ⟨hitems, Json.noConfusion⟩]
  cases items with
  | nil => contradiction
  | cons first rest => rfl

/-- When one element of a list of byte strings is replaced, the list is read as that element is,
put in its place. -/
theorem byteVectors_set {path name : String} {members members' : Json.Members}
    {count n : Nat} {items : List Json} {elements : Sized (Bytes n) count}
    (h : byteVectors ⟨path, members⟩ name count n = .ok elements)
    (hitems : Json.find? name members = some (.array items)) (index : Fin count) (value : Json)
    (hitems' : Json.find? name members' = some (.array (items.set index value))) :
  byteVectors ⟨path, members'⟩ name count n
    = (readElement n value (element (join path name) index)).map (elements.set index)
  := by
  obtain ⟨_, hfind, hnil, hread⟩ := byteVectors_eq_ok_iff.mp h
  obtain rfl := Json.array.inj (Option.some.inj (hitems.symm.trans hfind))
  have hlength : index < items.length := by
    rw [hread.length_eq, elements.property]
    exact index.isLt
  have hnil' : items.set index value ≠ [] := by
    rw [← List.length_pos_iff, List.length_set]
    apply List.length_pos_iff.mpr hnil
  have helements : readElements n (join path name) 0 items = .ok elements.val :=
    readElements_eq_ok_iff.mpr hread
  rw [readElements_eq_mapM] at helements
  rw [byteVectors_of_array hitems' hnil', readElements_eq_mapM, pathOf,
    Except.mapM_zipIdx_set helements hlength, Nat.zero_add]
  dsimp only
  cases readElement n value (element (join path name) index) with
  | error e => rfl
  | ok bytes =>
    have hsized : Sized.ofList? count (elements.val.set index bytes)
        = some (elements.set index bytes) := Sized.ofList?_eq_some_iff.mpr rfl
    show (match Sized.ofList? count (elements.val.set index bytes) with
      | some sized => Except.ok sized
      | none => _) = _
    rw [hsized]
    rfl

/-- A value is read as a section exactly when it is an object. -/
theorem ofJson_eq_ok_iff {inner : Section} :
  ofJson value path = .ok inner ↔
    ∃ members, value = .object members ∧ inner = ⟨path, members⟩
  := by
  unfold ofJson
  split
  case h_1 members =>
    constructor
    · rintro ⟨⟩
      exact ⟨members, rfl, rfl⟩
    · rintro ⟨_, ⟨⟩, rfl⟩
      rfl
  case h_2 hobject =>
    constructor
    · rintro ⟨⟩
    · rintro ⟨members, rfl, -⟩
      exact absurd rfl (hobject members)

/-- A member is read as a section exactly when it is an object. -/
theorem child_eq_ok_iff {inner : Section} :
  s.child name = .ok inner ↔
    ∃ members, Json.find? name s.members = some (.object members) ∧
      inner = ⟨s.pathOf name, members⟩
  := by
  rw [child, required_bind_eq_ok_iff (by rintro ⟨⟩)]
  constructor
  · rintro ⟨value, hfind, h⟩
    obtain ⟨members, rfl, hinner⟩ := ofJson_eq_ok_iff.mp h
    exact ⟨members, hfind, hinner⟩
  · rintro ⟨members, hfind, rfl⟩
    exact ⟨_, hfind, rfl⟩

end Section

end BeaconLight

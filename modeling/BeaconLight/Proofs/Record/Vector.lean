import BeaconLight.Proofs.Schema.Reading
import BeaconLight.Record.Committee

/-!
# Lists of byte strings

A list of byte strings may be missing, of another type or empty, have elements at fault, or have
another number of elements than it should. `VectorOutcome` puts these in order: the elements are
looked at before they are counted, so the first one at fault is reported whatever the length of
the list is. Each list has one outcome, which is what reading it comes to.
-/

namespace BeaconLight

theorem Sized.ofList?_of_length {α : Type} {n : Nat} {xs : List α} (h : xs.length = n) :
  Sized.ofList? n xs = some ⟨xs, h⟩
  := dif_pos h

theorem Sized.ofList?_of_length_ne {α : Type} {n : Nat} {xs : List α} (h : xs.length ≠ n) :
  Sized.ofList? n xs = none
  := dif_neg h

namespace Section

variable {s : Section} {name path : String} {count n : Nat}

/-! ### Elements -/

/-- The value of an element is text, not empty, that is read as bytes. -/
def IsElement (value : Json) (bytes : Bytes n) : Prop :=
  value ≠ .string "" ∧ value.SpellsBytes bytes.val

/-- What is wrong with the element at a path. -/
inductive ElementFault (n : Nat) (path : String) : Json → RecordError → Prop
  /-- It is `null`. -/
  | null : ElementFault n path .null (.missing path)
  /-- It is the empty text. -/
  | blank : ElementFault n path (.string "") (.missing path)
  /-- It is no text. -/
  | notText {value : Json} (hnull : value ≠ .null) (h : ∀ text, value ≠ .string text) :
    ElementFault n path value (.badHex path "expected a hex string")
  /-- It is no hexadecimal text. -/
  | badHex {text : String} {e : Hex.Error} (hblank : text ≠ "") (h : Hex.decode text = .error e) :
    ElementFault n path (.string text) (.badHex path e.message)
  /-- It is read as another number of bytes. -/
  | wrongLength {text : String} {bytes : List UInt8} (hblank : text ≠ "")
    (h : Hex.decode text = .ok bytes) (hlength : bytes.length ≠ n) :
    ElementFault n path (.string text) (.wrongLength path)

theorem readElement_string {text : String} (hblank : text ≠ "") :
  readElement n (.string text) path = readFixed n (.string text) path
  := by
  unfold readElement
  split
  · next hnull => cases hnull
  · next htext => exact absurd (Json.string.inj htext) hblank
  · rfl

/-- Hexadecimal text is read as its bytes, unless they are more or fewer than they should be. -/
theorem readFixed_of_decode {text : String} {bytes : List UInt8}
    (h : Hex.decode text = .ok bytes) :
  readFixed n (.string text) path = match Sized.ofList? n bytes with
    | some sized => .ok sized
    | none => .error (.wrongLength path)
  := by
  rw [readFixed, readBytes, h]
  rfl

theorem readFixed_of_decode_error {text : String} {e : Hex.Error}
    (h : Hex.decode text = .error e) :
  readFixed n (.string text) path = .error (.badHex path e.message)
  := by
  rw [readFixed, readBytes, h]
  rfl

/-- An element is reported exactly for what is wrong with it. -/
theorem elementFault_iff {value : Json} {e : RecordError} :
  ElementFault n path value e ↔ readElement n value path = .error e
  := by
  constructor
  · intro h
    cases h with
    | null => rfl
    | blank => rfl
    | notText hnull h =>
      cases value with
      | null => exact absurd rfl hnull
      | string text => exact absurd rfl (h text)
      | _ => rfl
    | badHex hblank h => rw [readElement_string hblank, readFixed_of_decode_error h]
    | wrongLength hblank h hlength =>
      rw [readElement_string hblank, readFixed_of_decode h, Sized.ofList?_of_length_ne hlength]
  · intro h
    cases value with
    | null =>
      cases h
      exact .null
    | string text =>
      by_cases hblank : text = ""
      · subst hblank
        cases h
        exact .blank
      · rw [readElement_string hblank] at h
        cases hdecode : Hex.decode text with
        | error cause =>
          rw [readFixed_of_decode_error hdecode] at h
          cases h
          exact .badHex hblank hdecode
        | ok bytes =>
          rw [readFixed_of_decode hdecode] at h
          by_cases hlength : bytes.length = n
          · rw [Sized.ofList?_of_length hlength] at h
            cases h
          · rw [Sized.ofList?_of_length_ne hlength] at h
            cases h
            exact .wrongLength hblank hdecode hlength
    | _ =>
      cases h
      apply ElementFault.notText
      · rintro ⟨⟩
      · rintro text ⟨⟩

/-! ### Lists -/

/-- What comes of reading a member as a list of `count` strings of `n` bytes each. -/
inductive VectorOutcome (s : Section) (name : String) (count n : Nat) :
  Except RecordError (Sized (Bytes n) count) → Prop
  /-- The member is not there, or it is `null`. -/
  | missing (h : ∀ value, Json.find? name s.members = some value → value = .null) :
    VectorOutcome s name count n (.error (.missing (s.pathOf name)))
  /-- The member is no list. -/
  | wrongType {value : Json} (h : Json.find? name s.members = some value)
    (hnull : value ≠ .null) (hvalue : ∀ items, value ≠ .array items) :
    VectorOutcome s name count n (.error (.wrongType (s.pathOf name) "an array"))
  /-- The list is empty. -/
  | empty (h : Json.find? name s.members = some (.array [])) :
    VectorOutcome s name count n (.error (.empty (s.pathOf name)))
  /-- An element is at fault and none before it is, whatever the length of the list. -/
  | element {items : List Json} {index : Nat} {item : Json} {e : RecordError}
    (h : Json.find? name s.members = some (.array items)) (hitem : items[index]? = some item)
    (hfault : ElementFault n (element (s.pathOf name) index) item e)
    (hbefore : ∀ j < index, ∀ other, items[j]? = some other →
      ∃ bytes : Bytes n, IsElement other bytes) :
    VectorOutcome s name count n (.error e)
  /-- No element is at fault, but there are not as many as there should be. -/
  | wrongCount {items : List Json} {elements : List (Bytes n)}
    (h : Json.find? name s.members = some (.array items)) (hnil : items ≠ [])
    (helements : List.Forall₂ IsElement items elements) (hcount : items.length ≠ count) :
    VectorOutcome s name count n (.error (.wrongCount (s.pathOf name) count items.length))
  /-- The elements are as many as they should be, and they are the bytes in order. -/
  | read {items : List Json} {elements : Sized (Bytes n) count}
    (h : Json.find? name s.members = some (.array items)) (hnil : items ≠ [])
    (helements : List.Forall₂ IsElement items elements.val) :
    VectorOutcome s name count n (.ok elements)

theorem required_eq_missing (h : ∀ value, Json.find? name s.members = some value → value = .null) :
  s.required name = .error (.missing (s.pathOf name))
  := by
  rw [required]
  split
  · rfl
  · rfl
  · next value hnull hfind => exact absurd (h value hfind) hnull

theorem readElements_of_isElement {items : List Json} {elements : List (Bytes n)}
    (h : List.Forall₂ IsElement items elements) :
  readElements n path 0 items = .ok elements
  := readElements_eq_ok_iff.mpr h

/-- The first element at fault is reported at its index. -/
theorem readElements_eq_error_iff {items : List Json} {e : RecordError} :
  readElements n path 0 items = .error e ↔
    ∃ index item, items[index]? = some item ∧ ElementFault n (element path index) item e ∧
      ∀ j < index, ∀ other, items[j]? = some other → ∃ bytes : Bytes n, IsElement other bytes
  := by
  rw [readElements_eq_mapM, Except.mapM_zipIdx_eq_error_iff]
  simp only [Nat.zero_add, elementFault_iff, IsElement, readElement_eq_ok_iff]

/-- Reading a member as a list of byte strings is what comes of it. -/
theorem vectorOutcome_iff {result : Except RecordError (Sized (Bytes n) count)} :
  s.VectorOutcome name count n result ↔ s.byteVectors name count n = result
  := by
  constructor
  · intro h
    cases h with
    | missing h =>
      rw [byteVectors, required_eq_missing h]
      rfl
    | @wrongType value h hnull hvalue =>
      rw [byteVectors, required_eq_ok_iff.mpr ⟨h, hnull⟩]
      cases value with
      | array items => exact absurd rfl (hvalue items)
      | _ => rfl
    | empty h =>
      rw [byteVectors, required_eq_ok_iff.mpr ⟨h, Json.noConfusion⟩]
      rfl
    | @element items index item e h hitem hfault hbefore =>
      have hnil : items ≠ [] := by
        rintro rfl
        cases hitem
      rw [byteVectors_of_array h hnil,
        readElements_eq_error_iff.mpr ⟨index, item, hitem, hfault, hbefore⟩]
      rfl
    | @wrongCount items elements h hnil helements hcount =>
      rw [helements.length_eq] at hcount ⊢
      rw [byteVectors_of_array h hnil, readElements_of_isElement helements]
      simp only [bind, Except.bind, Sized.ofList?_of_length_ne hcount]
      rfl
    | @read items elements h hnil helements =>
      apply byteVectors_eq_ok_iff.mpr ⟨items, h, hnil, helements⟩
  · rintro rfl
    by_cases hmissing : ∀ value, Json.find? name s.members = some value → value = .null
    · rw [byteVectors, required_eq_missing hmissing]
      exact .missing hmissing
    · push Not at hmissing
      obtain ⟨value, h, hnull⟩ := hmissing
      by_cases harray : ∃ items, value = .array items
      · obtain ⟨items, rfl⟩ := harray
        by_cases hnil : items = []
        · subst hnil
          rw [byteVectors, required_eq_ok_iff.mpr ⟨h, hnull⟩]
          exact .empty h
        · rw [byteVectors_of_array h hnil]
          cases hread : readElements n (s.pathOf name) 0 items with
          | error e =>
            obtain ⟨index, item, hitem, hfault, hbefore⟩ := readElements_eq_error_iff.mp hread
            exact .element h hitem hfault hbefore
          | ok elements =>
            have helements : List.Forall₂ IsElement items elements :=
              readElements_eq_ok_iff.mp hread
            by_cases hcount : elements.length = count
            · simp only [bind, Except.bind, Sized.ofList?_of_length hcount]
              exact .read h hnil helements
            · simp only [bind, Except.bind, Sized.ofList?_of_length_ne hcount]
              rw [← helements.length_eq] at hcount ⊢
              exact .wrongCount h hnil helements hcount
      · rw [byteVectors, required_eq_ok_iff.mpr ⟨h, hnull⟩]
        cases value with
        | array items => exact absurd ⟨items, rfl⟩ harray
        | _ => exact .wrongType h hnull (not_exists.mp harray)

/-! ### Committees -/

/-- A committee is read when its public keys are and then their aggregate. -/
theorem readCommittee_eq_ok_iff {keys : Sized (Bytes Preset.publicKeySize) Preset.syncCommitteeSize}
    {aggregate : Bytes Preset.publicKeySize} :
  (Layout.fields SyncCommittee).read s = .ok (keys, aggregate, ()) ↔
    s.byteVectors "pubkeys" Preset.syncCommitteeSize Preset.publicKeySize = .ok keys ∧
      s.fixedBytes "aggregate_pubkey" Preset.publicKeySize = .ok aggregate
  := by
  apply Fields.read_cons_eq_ok_iff.trans
  apply and_congr_right
  intro _
  apply Fields.read_cons_eq_ok_iff.trans
  apply and_iff_left
  rfl

/-- A committee is not read when its public keys are not or else their aggregate. -/
theorem readCommittee_eq_error_iff {e : RecordError} :
  (Layout.fields SyncCommittee).read s = .error e ↔
    s.byteVectors "pubkeys" Preset.syncCommitteeSize Preset.publicKeySize = .error e ∨
      ∃ keys, s.byteVectors "pubkeys" Preset.syncCommitteeSize Preset.publicKeySize = .ok keys ∧
        s.fixedBytes "aggregate_pubkey" Preset.publicKeySize = .error e
  := by
  show (do
    let keys ← s.byteVectors "pubkeys" Preset.syncCommitteeSize Preset.publicKeySize
    let values ← (do
      let aggregate ← s.fixedBytes "aggregate_pubkey" Preset.publicKeySize
      return (aggregate, ()))
    return (keys, values)) = Except.error e ↔ _
  rw [Except.bind_eq_error_iff]
  apply or_congr_right
  constructor
  · rintro ⟨keys, hkeys, h⟩
    rcases Except.bind_eq_error_iff.mp h with h | ⟨_, _, ⟨⟩⟩
    rcases Except.bind_eq_error_iff.mp h with h | ⟨_, _, ⟨⟩⟩
    exact ⟨keys, hkeys, h⟩
  · rintro ⟨keys, hkeys, h⟩
    refine ⟨keys, hkeys, ?_⟩
    rw [h]
    rfl

/-- A member is read as a list of byte strings in a fixed order: it has to be there, to be a list
and not to be empty, then each element has to be right, and last there have to be as many as there
should be. What comes of it is the result, of every branch of a record too, which is such a member,
and of the public keys of a committee, which come before their aggregate. -/
theorem byteVectors_follows_outcome (s : Section) (name : String) (count n : Nat) :
  (∀ result, s.byteVectors name count n = result ↔ s.VectorOutcome name count n result) ∧
  (∀ result, (Schema.byteVectors count n).readMember name s = result ↔
    s.VectorOutcome name count n result) ∧
  (∀ keys aggregate, (Layout.fields SyncCommittee).read s = .ok (keys, aggregate, ()) ↔
    s.VectorOutcome "pubkeys" Preset.syncCommitteeSize Preset.publicKeySize (.ok keys) ∧
      s.fixedBytes "aggregate_pubkey" Preset.publicKeySize = .ok aggregate) ∧
  ∀ e, (Layout.fields SyncCommittee).read s = .error e ↔
    s.VectorOutcome "pubkeys" Preset.syncCommitteeSize Preset.publicKeySize (.error e) ∨
      ∃ keys, s.VectorOutcome "pubkeys" Preset.syncCommitteeSize Preset.publicKeySize (.ok keys) ∧
        s.fixedBytes "aggregate_pubkey" Preset.publicKeySize = .error e
  := by
  refine ⟨?_, ?_, ?_, ?_⟩
  · intro result
    apply vectorOutcome_iff.symm
  · intro result
    apply vectorOutcome_iff.symm
  · intro keys aggregate
    rw [vectorOutcome_iff]
    apply readCommittee_eq_ok_iff
  · intro e
    simp only [vectorOutcome_iff]
    apply readCommittee_eq_error_iff

end Section

end BeaconLight

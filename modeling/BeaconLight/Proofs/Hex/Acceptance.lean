import BeaconLight.Proofs.Hex.Spelling
import BeaconLight.Proofs.Record.Section

/-!
# Texts that are read as bytes

`ReadsAs` says that a text is read as digits: as the bytes that they spell, as a given number of
bytes when they are two for each, and with an error that says which of the two is amiss. The digits
of a text are what is left of it behind the mark `0x`, if it begins with that, and then behind one
mark more, `0x` or `0X`, if it goes on with that. So the second mark is read over as the first one
is, and a text is read as what `strip` leaves of it exactly when that has no mark in front of
digits.
-/

namespace BeaconLight.Hex

/-! ### Marks in front of digits -/

/-- Characters with a mark of either case in front. -/
def Marked (cs digits : List Char) : Prop :=
  cs = '0' :: 'x' :: digits ∨ cs = '0' :: 'X' :: digits

/-- A mark is left in front of digits that pair up when `strip` has taken off what it does. -/
def HasMarkLeft (text : String) : Prop :=
  ∃ digits bytes, Marked (strip text).toList digits ∧ Spells digits bytes

theorem Marked.stripMark_eq {cs digits : List Char} (h : Marked cs digits) :
  stripMark cs = digits
  := by
  rcases h with rfl | rfl
  · rfl
  · rfl

/-- What is left of characters is those characters or what they mark. -/
theorem eq_stripMark_or_marked (cs : List Char) :
  cs = stripMark cs ∨ Marked cs (stripMark cs)
  := by
  unfold stripMark
  split
  · exact .inr (.inl rfl)
  · exact .inr (.inr rfl)
  · exact .inl rfl

theorem Spells.not_marked {cs digits : List Char} {bytes : List UInt8} (h : Spells cs bytes) :
  ¬ Marked cs digits
  := by
  rintro (rfl | rfl)
  · rcases h with _ | ⟨_, hlow, _⟩
    cases hlow
  · rcases h with _ | ⟨_, hlow, _⟩
    cases hlow

theorem Spells.length_eq {cs : List Char} {bytes : List UInt8} (h : Spells cs bytes) :
  cs.length = 2 * bytes.length
  := by
  induction h with
  | nil => rfl
  | cons _ _ _ ih =>
    rw [List.length_cons, List.length_cons, List.length_cons, ih]
    omega

/-! ### Any number of bytes -/

/-- A text is read exactly as the bytes that what is left of it spells. -/
theorem decode_eq_ok_iff_spells {text : String} {bytes : List UInt8} :
  decode text = .ok bytes ↔ Spells (stripMark (strip text).toList) bytes
  := by
  unfold decode
  dsimp only
  split
  · next hodd =>
    constructor
    · rintro ⟨⟩
    · intro h
      rw [utf8Length, h.foldl_utf8Size] at hodd
      omega
  · apply ofDigits_eq_ok_iff

/-- What `strip` leaves of a text is its digits exactly when that has no mark in front of
digits. -/
theorem decode_eq_ok_iff_spells_strip_iff {text : String} :
  (∀ bytes, decode text = .ok bytes ↔ Spells (strip text).toList bytes) ↔ ¬ HasMarkLeft text
  := by
  constructor
  · rintro h ⟨digits, bytes, hmarked, hspells⟩
    have hread : decode text = .ok bytes := by
      rw [decode_eq_ok_iff_spells, hmarked.stripMark_eq]
      exact hspells
    apply ((h bytes).mp hread).not_marked hmarked
  · intro hnone bytes
    rw [decode_eq_ok_iff_spells]
    rcases eq_stripMark_or_marked (strip text).toList with hstrip | hmarked
    · rw [← hstrip]
    · constructor
      · intro h
        exact absurd ⟨_, _, hmarked, h⟩ hnone
      · intro h
        exact absurd hmarked h.not_marked

/-! ### A given number of bytes -/

/-- The error says that a text is no hexadecimal text, whatever the number of bytes. -/
inductive Error.IsMalformed : Error → Prop
  | oddDigits : IsMalformed .oddDigits
  | invalidDigit (byte : UInt8) (position : Nat) : IsMalformed (.invalidDigit byte position)

/-- Characters that are no pairs of digits are reported as such. -/
theorem isMalformed_of_ofDigits {position : Nat} {cs : List Char} {e : Error}
    (h : ofDigits position cs = .error e) :
  e.IsMalformed
  := by
  fun_induction ofDigits position cs with
  | case1 position high low rest =>
    cases h
    apply Error.IsMalformed.invalidDigit
  | case2 position high low rest =>
    cases h
    apply Error.IsMalformed.invalidDigit
  | case3 position high low rest l h' hlow hhigh ih =>
    apply ih (Except.map_eq_error_iff.mp h)
  | case4 position c =>
    cases h
    apply Error.IsMalformed.invalidDigit
  | case5 position => cases h

/-- A text that is not read is reported as no hexadecimal text. -/
theorem isMalformed_of_decode {text : String} {e : Error} (h : decode text = .error e) :
  e.IsMalformed
  := by
  unfold decode at h
  dsimp only at h
  split at h
  · cases h
    apply Error.IsMalformed.oddDigits
  · apply isMalformed_of_ofDigits h

/-- What comes of reading digits as `n` bytes. -/
inductive FixedOutcome (n : Nat) (digits : List Char) : Except Error (Bytes n) → Prop
  /-- There are `2 * n` digits, and they spell the bytes. -/
  | read {bytes : Bytes n} (hlength : digits.length = 2 * n) (h : Spells digits bytes.val) :
    FixedOutcome n digits (.ok bytes)
  /-- The digits spell another number of bytes, which is reported. -/
  | wrongLength {bytes : List UInt8} (hlength : digits.length ≠ 2 * n) (h : Spells digits bytes) :
    FixedOutcome n digits (.error (.wrongLength n bytes.length))
  /-- The digits spell no bytes. -/
  | malformed {e : Error} (h : ∀ bytes, ¬ Spells digits bytes) (he : e.IsMalformed) :
    FixedOutcome n digits (.error e)

/-- A text is read as digits, as any number of bytes and as a given one. -/
structure ReadsAs (text : String) (digits : List Char) : Prop where
  decode_iff : ∀ bytes, decode text = .ok bytes ↔ Spells digits bytes
  decodeFixed : ∀ n, FixedOutcome n digits (decodeFixed n text)

/-- When digits spell what a text is read as, the text is read as the digits. -/
theorem readsAs_iff {text : String} {digits : List Char} :
  ReadsAs text digits ↔ ∀ bytes, decode text = .ok bytes ↔ Spells digits bytes
  := by
  constructor
  · apply ReadsAs.decode_iff
  · intro h
    refine ⟨h, ?_⟩
    intro n
    cases hdecode : decode text with
    | error e =>
      have hfixed : decodeFixed n text = .error e := by
        rw [decodeFixed, hdecode]
        rfl
      rw [hfixed]
      apply FixedOutcome.malformed _ (isMalformed_of_decode hdecode)
      intro bytes hspells
      cases hdecode.symm.trans ((h bytes).mpr hspells)
    | ok bytes =>
      have hspells := (h bytes).mp hdecode
      have hlength := hspells.length_eq
      have hfixed : decodeFixed n text =
          if hbytes : bytes.length = n then .ok ⟨bytes, hbytes⟩
          else .error (.wrongLength n bytes.length) := by
        rw [decodeFixed, hdecode]
        rfl
      rw [hfixed]
      split
      case isTrue hbytes =>
        apply FixedOutcome.read _ hspells
        rw [hlength, hbytes]
      case isFalse hbytes =>
        apply FixedOutcome.wrongLength _ hspells
        omega

/-- A text is read as a given number of bytes exactly when it is read as them. -/
theorem decodeFixed_eq_ok_iff {n : Nat} {text : String} {bytes : Bytes n} :
  decodeFixed n text = .ok bytes ↔ decode text = .ok bytes.val
  := by
  rw [decodeFixed, Except.bind_eq_ok_iff]
  constructor
  · rintro ⟨found, hfound, h⟩
    split at h
    case isTrue =>
      cases h
      exact hfound
    case isFalse => cases h
  · intro h
    exact ⟨bytes.val, h, dif_pos bytes.property⟩

theorem readFixed_eq_ok_iff_decodeFixed {n : Nat} {value : Json} {path : String}
    {bytes : Bytes n} :
  Section.readFixed n value path = .ok bytes ↔
    ∃ text, value = .string text ∧ decodeFixed n text = .ok bytes
  := by
  simp only [decodeFixed_eq_ok_iff]
  apply Section.readFixed_eq_ok_iff

/-- A text is read as its digits behind the marks that are taken off, and so it is read as what
`strip` leaves of it exactly when that has no mark in front of digits that pair up. What is written
for bytes is read back, and a leaf of a document is read as its text is. -/
theorem read_behind_marks (text : String) :
  ReadsAs text (stripMark (strip text).toList) ∧
  (ReadsAs text (strip text).toList ↔ ¬ HasMarkLeft text) ∧
  (∀ bytes, decode (encode bytes) = .ok bytes) ∧
  ∀ n path (bytes : Bytes n) value, Section.readFixed n value path = .ok bytes ↔
    ∃ leaf, value = .string leaf ∧ decodeFixed n leaf = .ok bytes
  := by
  refine ⟨?_, ?_, ?_, ?_⟩
  · apply readsAs_iff.mpr
    intro bytes
    apply decode_eq_ok_iff_spells
  · rw [readsAs_iff]
    apply decode_eq_ok_iff_spells_strip_iff
  · intro bytes
    apply HexCase.lower.decode_render
  · intro n path bytes value
    apply readFixed_eq_ok_iff_decodeFixed

/-- Two marks in front of digits are read over, and so is one in upper case, although what `strip`
leaves of neither text spells any bytes. -/
theorem two_marks_read :
  (decode "0x0x12" = .ok [0x12] ∧ ∀ bytes, ¬ Spells (strip "0x0x12").toList bytes) ∧
  (decode "0X12" = .ok [0x12] ∧ ∀ bytes, ¬ Spells (strip "0X12").toList bytes) ∧
  Section.readFixed 1 (.string "0x0x12") "root" = .ok ⟨[0x12], rfl⟩
  := by
  have hhigh : digitValue? '1' = some 1 := by decide
  have hlow : digitValue? '2' = some 2 := by decide
  have hspells : Spells ['1', '2'] [0x12] := .cons hhigh hlow .nil
  have htwo : Marked (strip "0x0x12").toList ['1', '2'] := .inl (by decide)
  have hupper : Marked (strip "0X12").toList ['1', '2'] := .inr (by decide)
  have hread {text : String} (h : Marked (strip text).toList ['1', '2']) :
      decode text = .ok [0x12] := by
    rw [decode_eq_ok_iff_spells, h.stripMark_eq]
    exact hspells
  refine ⟨⟨hread htwo, ?_⟩, ⟨hread hupper, ?_⟩, ?_⟩
  · intro bytes h
    apply h.not_marked htwo
  · intro bytes h
    apply h.not_marked hupper
  · exact Section.readFixed_eq_ok_iff.mpr ⟨_, rfl, hread htwo⟩

end BeaconLight.Hex

import Mathlib.Data.List.Forall2
import BeaconLight.Proofs.Hex

/-!
# Spellings of bytes

Bytes have one hexadecimal text that is written for them and many that are read as them: the
digits may be in either case, and behind one of the `marks`. The digits that are written are
found back in any of these texts by `dropMarks`, and `Respells` says how a text may be changed
without a change to what is read.
-/

namespace BeaconLight.Hex

/-! ### Digits -/

/-- A digit has a value below sixteen, of which it is the digit up to letter case. -/
theorem digit_of_digitValue? {c : Char} {n : Nat} (h : digitValue? c = some n) :
  n < 16 ∧ digit n = c.toLower
  := by
  have hlt := lt_of_digitValue? h
  have hcodes : ∀ n ∈ digitValue? c, n < 16 ∧ digit n = c.toLower := by
    refine Text.forall_of_code hlt ?_
    decide
  exact hcodes n h

/-- The digits that are written for bytes are those that spell them, in lower case. -/
theorem Spells.digits_eq {cs : List Char} {bytes : List UInt8} (h : Spells cs bytes) :
  digits bytes = cs.map Char.toLower
  := by
  induction h with
  | nil => rfl
  | @cons high low m n cs bytes hhigh hlow _ ih =>
    obtain ⟨hm, hmdigit⟩ := digit_of_digitValue? hhigh
    obtain ⟨hn, hndigit⟩ := digit_of_digitValue? hlow
    have hbyte : byteDigits (UInt8.ofNat (16 * m + n)) = [digit m, digit n] := by
      have hvalue : (UInt8.ofNat (16 * m + n)).toNat = 16 * m + n := by
        rw [UInt8.toNat_ofNat']
        omega
      have hdiv : (16 * m + n) / 16 = m := by omega
      have hmod : (16 * m + n) % 16 = n := by omega
      rw [byteDigits, hvalue, hdiv, hmod]
    rw [digits, List.flatMap_cons, hbyte, hmdigit, hndigit, ← digits, ih]
    rfl

/-- Digits that pair up spell bytes. -/
theorem exists_spells :
  (cs : List Char) → (∀ c ∈ cs, (digitValue? c).isSome = true) → cs.length % 2 = 0 →
    ∃ bytes, Spells cs bytes
  | [], _, _ => ⟨[], .nil⟩
  | [_], _, heven => by cases heven
  | high :: low :: rest, hdigits, heven => by
    obtain ⟨hhigh, hdigits⟩ := List.forall_mem_cons.mp hdigits
    obtain ⟨hlow, hdigits⟩ := List.forall_mem_cons.mp hdigits
    obtain ⟨m, hm⟩ := Option.isSome_iff_exists.mp hhigh
    obtain ⟨n, hn⟩ := Option.isSome_iff_exists.mp hlow
    have hrest : rest.length % 2 = 0 := by
      rw [List.length_cons, List.length_cons] at heven
      omega
    obtain ⟨bytes, hbytes⟩ := exists_spells rest hdigits hrest
    exact ⟨_, .cons hm hn hbytes⟩

/-! ### Marks -/

/-- What may stand in front of digits. -/
def marks : List (List Char) :=
  [[], ['0', 'x'], ['0', 'X'], ['0', 'x', '0', 'x'], ['0', 'x', '0', 'X']]

/-- Digits do not begin with the first mark. -/
theorem Spells.strip_eq {text : String} {bytes : List UInt8} (h : Spells text.toList bytes) :
  strip text = text
  := by
  unfold strip
  split
  · next hmark =>
    rw [hmark] at h
    rcases h with _ | ⟨_, hlow, _⟩
    cases hlow
  · rfl

/-- What is taken off in front of a text is one of the marks. -/
theorem exists_mark (text : String) :
  ∃ mark ∈ marks, text.toList = mark ++ stripMark (strip text).toList
  := by
  have hstrip : text.toList = (strip text).toList ∨
      text.toList = '0' :: 'x' :: (strip text).toList := by
    unfold strip
    split
    · next hmark =>
      right
      rw [hmark, String.toList_ofList]
    · exact .inl rfl
  have hstripMark (cs : List Char) : cs = stripMark cs ∨ cs = '0' :: 'x' :: stripMark cs ∨
      cs = '0' :: 'X' :: stripMark cs := by
    unfold stripMark
    split
    · exact .inr (.inl rfl)
    · exact .inr (.inr rfl)
    · exact .inl rfl
  rcases hstrip with htext | htext
  · rcases hstripMark (strip text).toList with hcs | hcs | hcs
    · exact ⟨[], by decide, htext.trans hcs⟩
    · exact ⟨['0', 'x'], by decide, htext.trans hcs⟩
    · exact ⟨['0', 'X'], by decide, htext.trans hcs⟩
  · rcases hstripMark (strip text).toList with hcs | hcs | hcs
    · exact ⟨['0', 'x'], by decide, htext.trans (congrArg (['0', 'x'] ++ ·) hcs)⟩
    · exact ⟨['0', 'x', '0', 'x'], by decide, htext.trans (congrArg (['0', 'x'] ++ ·) hcs)⟩
    · exact ⟨['0', 'x', '0', 'X'], by decide, htext.trans (congrArg (['0', 'x'] ++ ·) hcs)⟩

/-- A mark is taken off in front of digits. -/
theorem Spells.stripMark_strip {mark digits : List Char} {bytes : List UInt8}
    (h : Spells digits bytes) (hmark : mark ∈ marks) {text : String}
    (htext : text.toList = mark ++ digits) :
  stripMark (strip text).toList = digits
  := by
  have hnone : mark = [] → stripMark (strip text).toList = digits := by
    rintro rfl
    rw [List.nil_append] at htext
    rw [← htext] at h
    rw [h.strip_eq, h.stripMark_eq, htext]
  have hfirst (rest : List Char) (hrest : text.toList = '0' :: 'x' :: rest) :
      (strip text).toList = rest := by
    simp only [strip, hrest, String.toList_ofList]
  simp only [marks, List.mem_cons, List.not_mem_nil, or_false] at hmark
  rcases hmark with rfl | rfl | rfl | rfl | rfl
  · apply hnone rfl
  · rw [hfirst digits htext, h.stripMark_eq]
  · have hstrip : strip text = text := by
      simp [strip, htext]
    rw [hstrip, htext]
    rfl
  · rw [hfirst _ htext]
    rfl
  · rw [hfirst _ htext]
    rfl

/-- A text is read exactly as the bytes that its digits spell behind one of the marks. -/
theorem decode_eq_ok_iff {text : String} {bytes : List UInt8} :
  decode text = .ok bytes ↔
    ∃ mark ∈ marks, ∃ digits, text.toList = mark ++ digits ∧ Spells digits bytes
  := by
  unfold decode
  dsimp only
  constructor
  · intro h
    split at h
    · cases h
    · obtain ⟨mark, hmark, htext⟩ := exists_mark text
      exact ⟨mark, hmark, _, htext, ofDigits_eq_ok_iff.mp h⟩
  · rintro ⟨mark, hmark, digits, htext, hdigits⟩
    have hlength : utf8Length digits % 2 ≠ 1 := by
      rw [utf8Length, hdigits.foldl_utf8Size]
      omega
    rw [hdigits.stripMark_strip hmark htext, if_neg hlength]
    apply ofDigits_eq_ok_iff.mpr hdigits

/-- Digits without any marks in front. -/
def dropMarks : List Char → List Char
  | '0' :: 'x' :: rest => dropMarks rest
  | '0' :: 'X' :: rest => dropMarks rest
  | cs => cs

/-- Digits have no marks in front. -/
theorem Spells.dropMarks_eq {cs : List Char} {bytes : List UInt8} (h : Spells cs bytes) :
  dropMarks cs = cs
  := by
  unfold dropMarks
  split
  · rcases h with _ | ⟨_, hlow, _⟩
    cases hlow
  · rcases h with _ | ⟨_, hlow, _⟩
    cases hlow
  · rfl

/-- The digits that are written for the bytes of a text are those of the text in lower case,
without any marks in front. -/
theorem digits_of_decode {text : String} {bytes : List UInt8} (h : decode text = .ok bytes) :
  digits bytes = (dropMarks text.toList).map Char.toLower
  := by
  obtain ⟨mark, hmark, digits, htext, hdigits⟩ := decode_eq_ok_iff.mp h
  have hdrop : dropMarks (mark ++ digits) = digits := by
    simp only [marks, List.mem_cons, List.not_mem_nil, or_false] at hmark
    rcases hmark with rfl | rfl | rfl | rfl | rfl
    all_goals apply hdigits.dropMarks_eq
  rw [htext, hdrop, hdigits.digits_eq]

/-! ### Other spellings -/

/-- A character is another, or a digit that is the other up to letter case. -/
def SameDigit (c d : Char) : Prop :=
  c = d ∨ (digitValue? c).isSome = true ∧ c.toLower = d.toLower

/-- A text is spelled in another way. -/
inductive Respells (text text' : String) : Prop
  /-- The letter case of digits is changed. -/
  | letterCase (h : List.Forall₂ SameDigit text.toList text'.toList)
  /-- A mark is put in front of digits that pair up. -/
  | mark (hne : text.toList ≠ []) (hdigits : ∀ c ∈ text.toList, (digitValue? c).isSome = true)
    (heven : text.toList.length % 2 = 0) (h : text'.toList = '0' :: 'x' :: text.toList)

theorem digitValue?_toLower (c : Char) :
  digitValue? c.toLower = digitValue? c
  := by
  by_cases hletter : c.val ≥ 'A'.val ∧ c.val ≤ 'Z'.val
  · have hlt : c.toNat < 91 := Nat.lt_succ_of_le hletter.2
    refine Text.forall_of_code hlt ?_
    decide
  · exact congrArg digitValue? (dif_neg hletter)

theorem SameDigit.digitValue?_eq {c d : Char} (h : SameDigit c d) :
  digitValue? c = digitValue? d
  := by
  rcases h with rfl | ⟨-, hlower⟩
  · rfl
  · rw [← digitValue?_toLower c, hlower, digitValue?_toLower]

theorem SameDigit.symm {c d : Char} (h : SameDigit c d) :
  SameDigit d c
  := by
  rcases h with rfl | ⟨hdigit, hlower⟩
  · exact .inl rfl
  · right
    rw [← digitValue?_toLower d, ← hlower, digitValue?_toLower]
    exact ⟨hdigit, rfl⟩

/-- No digit is a character of a mark in another letter case. -/
theorem SameDigit.eq_of_mem_mark {mark : List Char} (hmark : mark ∈ marks) {c d : Char}
    (hd : d ∈ mark) (h : SameDigit c d) :
  c = d
  := by
  have hmarks : ∀ mark ∈ marks, ∀ d ∈ mark, d = '0' ∨ d = 'x' ∨ d = 'X' := by simp [marks]
  rcases h with rfl | ⟨hdigit, hlower⟩
  · rfl
  · obtain ⟨n, hn⟩ := Option.isSome_iff_exists.mp hdigit
    have hlt := lt_of_digitValue? hn
    revert hdigit hlower
    rcases hmarks mark hmark d hd with rfl | rfl | rfl
    all_goals
      refine Text.forall_of_code hlt ?_
      decide

/-- What has the same digits as a mark is that mark. -/
theorem eq_of_sameDigits {cs ds : List Char} (h : List.Forall₂ SameDigit cs ds)
    (hds : ∀ d ∈ ds, ∃ mark ∈ marks, d ∈ mark) :
  cs = ds
  := by
  induction h with
  | nil => rfl
  | cons hsame _ ih =>
    obtain ⟨⟨mark, hmark, hd⟩, hrest⟩ := List.forall_mem_cons.mp hds
    rw [hsame.eq_of_mem_mark hmark hd, ih hrest]

/-- The same digits spell the same bytes. -/
theorem Spells.of_sameDigits {cs ds : List Char} {bytes : List UInt8} (h : Spells ds bytes)
    (hsame : List.Forall₂ SameDigit cs ds) :
  Spells cs bytes
  := by
  induction h generalizing cs with
  | nil =>
    rw [List.forall₂_nil_right_iff.mp hsame]
    apply Spells.nil
  | cons hhigh hlow _ ih =>
    obtain ⟨high, later, hsamehigh, hlater, rfl⟩ := List.forall₂_cons_right_iff.mp hsame
    obtain ⟨low, others, hsamelow, hothers, rfl⟩ := List.forall₂_cons_right_iff.mp hlater
    rw [← hsamehigh.digitValue?_eq] at hhigh
    rw [← hsamelow.digitValue?_eq] at hlow
    exact .cons hhigh hlow (ih hothers)

/-- Bytes are read from a text in another letter case. -/
theorem decode_of_sameDigits {text text' : String} {bytes : List UInt8}
    (hsame : List.Forall₂ SameDigit text'.toList text.toList) (h : decode text = .ok bytes) :
  decode text' = .ok bytes
  := by
  obtain ⟨mark, hmark, digits, htext, hdigits⟩ := decode_eq_ok_iff.mp h
  rw [htext] at hsame
  have htake : text'.toList.take mark.length = mark := by
    apply eq_of_sameDigits (List.forall₂_take_append _ _ _ hsame)
    intro d hd
    exact ⟨mark, hmark, hd⟩
  have hdrop := List.forall₂_drop_append _ _ _ hsame
  apply decode_eq_ok_iff.mpr
  refine ⟨mark, hmark, text'.toList.drop mark.length, ?_, hdigits.of_sameDigits hdrop⟩
  calc text'.toList
    _ = text'.toList.take mark.length ++ text'.toList.drop mark.length :=
      (List.take_append_drop _ _).symm
    _ = mark ++ text'.toList.drop mark.length := by rw [htake]

/-- Another spelling of a text is read as the same bytes, or not at all if the text is not. -/
theorem Respells.decode_iff {text text' : String} (h : Respells text text') {bytes : List UInt8} :
  decode text = .ok bytes ↔ decode text' = .ok bytes
  := by
  cases h with
  | letterCase h =>
    constructor
    · apply decode_of_sameDigits
      apply List.Forall₂.flip
      apply h.imp
      intro c d hsame
      exact hsame.symm
    · apply decode_of_sameDigits h
  | mark _ hdigits heven h =>
    obtain ⟨spelled, hspelled⟩ := exists_spells text.toList hdigits heven
    have hless : decode text = .ok spelled :=
      decode_eq_ok_iff.mpr ⟨[], by decide, _, rfl, hspelled⟩
    have hmore : decode text' = .ok spelled :=
      decode_eq_ok_iff.mpr ⟨['0', 'x'], by decide, _, h, hspelled⟩
    rw [hless, hmore]

/-- Another spelling of a text is empty when the text is. -/
theorem Respells.eq_empty_iff {text text' : String} (h : Respells text text') :
  text = "" ↔ text' = ""
  := by
  have hempty (s : String) : s = "" ↔ s.toList = [] := by
    rw [← String.toList_inj]
    rfl
  rw [hempty, hempty]
  cases h with
  | letterCase h =>
    rw [← List.length_eq_zero_iff, h.length_eq, List.length_eq_zero_iff]
  | mark hne _ _ h =>
    rw [h]
    simp [hne]

end BeaconLight.Hex

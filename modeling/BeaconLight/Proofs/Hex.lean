import BeaconLight.Address
import BeaconLight.Proofs.Except
import BeaconLight.Proofs.Text.Digits
import BeaconLight.Schema.Document

/-!
# Reading hexadecimal text

`Hex.Spells` says which characters are the digits of which bytes, in either letter case. Text
with the mark in front is read as the bytes that its digits spell, so it does not matter
whether an address is written with its checksum.
-/

namespace BeaconLight

namespace Hex

/-- The characters are two digits of either case for each byte. -/
inductive Spells : List Char → List UInt8 → Prop
  | nil : Spells [] []
  | cons {high low : Char} {h l : Nat} {cs : List Char} {bytes : List UInt8}
    (hhigh : digitValue? high = some h) (hlow : digitValue? low = some l)
    (hrest : Spells cs bytes) :
    Spells (high :: low :: cs) (UInt8.ofNat (16 * h + l) :: bytes)

/-- Pairs of digits are read exactly as the bytes that they spell. -/
theorem ofDigits_eq_ok_iff {position : Nat} {cs : List Char} {bytes : List UInt8} :
  ofDigits position cs = .ok bytes ↔ Spells cs bytes
  := by
  fun_induction ofDigits position cs generalizing bytes with
  | case1 position high low rest hhigh =>
    constructor
    · rintro ⟨⟩
    · rintro (_ | ⟨hhigh', _, _⟩)
      rw [hhigh] at hhigh'
      cases hhigh'
  | case2 position high low rest hlow hhigh =>
    constructor
    · rintro ⟨⟩
    · rintro (_ | ⟨_, hlow', _⟩)
      rw [hlow] at hlow'
      cases hlow'
  | case3 position high low rest l h hlow hhigh ih =>
    rw [Except.map_eq_ok_iff]
    constructor
    · rintro ⟨others, hothers, rfl⟩
      exact .cons hhigh hlow (ih.mp hothers)
    · rintro (_ | ⟨hhigh', hlow', hrest⟩)
      rw [hhigh] at hhigh'
      rw [hlow] at hlow'
      cases hhigh'
      cases hlow'
      exact ⟨_, ih.mpr hrest, rfl⟩
  | case4 position c =>
    constructor
    · rintro ⟨⟩
    · rintro ⟨⟩
  | case5 position =>
    constructor
    · rintro ⟨⟩
      apply Spells.nil
    · rintro ⟨⟩
      rfl

theorem digitValue?_digit :
  ∀ n < 16, digitValue? (digit n) = some n
  := by decide

/-- The digits of bytes spell them. -/
theorem spells_digits (bytes : List UInt8) :
  Spells (digits bytes) bytes
  := by
  induction bytes with
  | nil => apply Spells.nil
  | cons byte rest ih =>
    have hbyte : byte.toNat < 256 := byte.toNat_lt
    have hvalue : UInt8.ofNat (16 * (byte.toNat / 16) + byte.toNat % 16) = byte := by
      rw [Nat.div_add_mod, UInt8.ofNat_toNat]
    have hspells := Spells.cons (digitValue?_digit (byte.toNat / 16) (by omega))
      (digitValue?_digit (byte.toNat % 16) (by omega)) ih
    rw [hvalue] at hspells
    apply hspells

theorem digitValue?_toUpper (c : Char) :
  digitValue? c.toUpper = digitValue? c
  := by
  by_cases hletter : c.val ≥ 'a'.val ∧ c.val ≤ 'z'.val
  · have hlt : c.toNat < 123 := Nat.lt_succ_of_le hletter.2
    refine Text.forall_of_code hlt ?_
    decide
  · exact congrArg digitValue? (dif_neg hletter)

/-- Digits spell the same bytes with the letter case of a checksum. -/
theorem Spells.applyCase {cs : List Char} {bytes : List UInt8} (h : Spells cs bytes)
    (mask : List Nat) :
  Spells (Address.applyCase cs mask) bytes
  := by
  have hcase (n : Nat) (c : Char) {d : Nat} (hc : digitValue? c = some d) :
      digitValue? (if 8 ≤ n then c.toUpper else c) = some d := by
    split
    · rwa [digitValue?_toUpper]
    · apply hc
  induction h generalizing mask with
  | nil =>
    cases mask
    all_goals apply Spells.nil
  | cons hhigh hlow hrest ih =>
    match mask with
    | [] => exact .cons hhigh hlow hrest
    | [n] => exact .cons (hcase n _ hhigh) hlow hrest
    | n :: m :: mask => exact .cons (hcase n _ hhigh) (hcase m _ hlow) (ih mask)

/-- The codes of digits are small. -/
theorem lt_of_digitValue? {c : Char} {n : Nat} (h : digitValue? c = some n) :
  c.toNat < 128
  := by
  have hle : c.val ≤ 127 := by
    unfold digitValue? at h
    split at h
    case isTrue hdigit => exact UInt32.le_trans hdigit.2 (by decide)
    split at h
    case isTrue hlower => exact UInt32.le_trans hlower.2 (by decide)
    split at h
    case isTrue hupper => exact UInt32.le_trans hupper.2 (by decide)
    cases h
  exact Nat.lt_succ_of_le hle

theorem utf8Size_of_digitValue? {c : Char} {n : Nat} (h : digitValue? c = some n) :
  c.utf8Size = 1
  := Char.utf8Size_eq_one_iff.mpr (Nat.le_of_lt_succ (lt_of_digitValue? h))

/-- Digits take as many bytes in UTF-8 as there are of them. -/
theorem Spells.foldl_utf8Size {cs : List Char} {bytes : List UInt8} (h : Spells cs bytes)
    (n : Nat) :
  cs.foldl (fun n c => n + c.utf8Size) n = n + 2 * bytes.length
  := by
  induction h generalizing n with
  | nil => rfl
  | cons hhigh hlow hrest ih =>
    rw [List.foldl_cons, List.foldl_cons, ih, utf8Size_of_digitValue? hhigh,
      utf8Size_of_digitValue? hlow, List.length_cons]
    omega

/-- Digits do not begin with another mark. -/
theorem Spells.stripMark_eq {cs : List Char} {bytes : List UInt8} (h : Spells cs bytes) :
  stripMark cs = cs
  := by
  unfold stripMark
  split
  · rcases h with _ | ⟨_, hlow, _⟩
    cases hlow
  · rcases h with _ | ⟨_, hlow, _⟩
    cases hlow
  · rfl

/-- Digits with the mark in front are read as the bytes that they spell. -/
theorem Spells.decode_eq {cs : List Char} {bytes : List UInt8} (h : Spells cs bytes) :
  decode (String.ofList ('0' :: 'x' :: cs)) = .ok bytes
  := by
  have hstrip : strip (String.ofList ('0' :: 'x' :: cs)) = String.ofList cs := by
    simp only [strip, String.toList_ofList]
  have hlength : utf8Length cs % 2 ≠ 1 := by
    rw [utf8Length, h.foldl_utf8Size]
    omega
  rw [decode, hstrip, String.toList_ofList, h.stripMark_eq, if_neg hlength]
  apply ofDigits_eq_ok_iff.mpr h

end Hex

/-- Bytes are read back from their hexadecimal text, in either case. -/
theorem HexCase.decode_render (style : HexCase) (bytes : List UInt8) :
  Hex.decode (style.render bytes) = .ok bytes
  := by
  cases style with
  | lower => apply (Hex.spells_digits bytes).decode_eq
  | checksum => apply ((Hex.spells_digits bytes).applyCase _).decode_eq

end BeaconLight

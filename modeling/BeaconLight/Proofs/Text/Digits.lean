import BeaconLight.Text.Digits

/-!
# Reading decimal text

The decimal text of a natural number denotes that number, and the decimal text of the number that
digits denote is these digits without the zeros in front.
-/

namespace BeaconLight.Text

/-- What holds of the characters of the first codes holds of each character with such a code. -/
@[elab_as_elim]
theorem forall_of_code {P : Char → Prop} {bound : Nat} {c : Char} (hc : c.toNat < bound)
    (h : ∀ code < bound, P (Char.ofNat code)) :
  P c
  := by
  have hcode := h c.toNat hc
  rwa [Char.ofNat_toNat] at hcode

/-- Decimal text denotes the number that it is written for. -/
theorem ofDecimal?_decimal (n : Nat) :
  ofDecimal? (decimal n) = some n
  := by
  have hdigits : (Nat.toDigits 10 n).all Char.isDigit = true := by
    rw [List.all_eq_true]
    intro c hc
    apply Nat.isDigit_of_mem_toDigits (by decide) (by decide) hc
  have hvalue : ofDigits (Nat.toDigits 10 n) = n := by
    apply Eq.trans _ Nat.ofDigitChars_ten_toDigits
    rw [Nat.ofDigitChars_eq_foldl]
    rfl
  rw [ofDecimal?, decimal, String.toList_ofList, hvalue, if_pos ⟨Nat.toDigits_ne_nil, hdigits⟩]

/-- Decimal text is one or more digits, and denotes the number that they do. -/
theorem ofDecimal?_eq_some_iff {text : String} {n : Nat} :
  ofDecimal? text = some n ↔
    text.toList ≠ [] ∧ (∀ c ∈ text.toList, c.isDigit = true) ∧ ofDigits text.toList = n
  := by simp [ofDecimal?, and_assoc]

/-! ### Zeros in front -/

/-- The digits without the zeros in front; of zeros alone one is left. -/
def dropZeros : List Char → List Char
  | [] => ['0']
  | c :: rest => if c = '0' then dropZeros rest else c :: rest

theorem lt_of_isDigit {c : Char} (h : c.isDigit = true) :
  c.toNat < 58
  := by
  rw [Char.isDigit, Bool.and_eq_true, decide_eq_true_eq, decide_eq_true_eq] at h
  exact Nat.lt_succ_of_le h.2

theorem digitChar_digitValue {c : Char} (h : c.isDigit = true) :
  digitValue c < 10 ∧ Nat.digitChar (digitValue c) = c
  := by
  have hlt := lt_of_isDigit h
  revert h
  refine forall_of_code hlt ?_
  decide

theorem toDigits_digitValue {c : Char} (h : c.isDigit = true) :
  Nat.toDigits 10 (digitValue c) = [c]
  := by
  obtain ⟨hlt, hc⟩ := digitChar_digitValue h
  rw [Nat.toDigits_of_lt_base hlt, hc]

/-- Digits that follow a number which is not zero stand after the digits of that number. -/
theorem toDigits_foldl {n : Nat} (hn : 0 < n) {digits : List Char}
    (h : ∀ c ∈ digits, c.isDigit = true) :
  Nat.toDigits 10 (digits.foldl (fun n c => 10 * n + digitValue c) n)
    = Nat.toDigits 10 n ++ digits
  := by
  induction digits generalizing n with
  | nil => rw [List.foldl_nil, List.append_nil]
  | cons c rest ih =>
    obtain ⟨hc, hrest⟩ := List.forall_mem_cons.mp h
    have hpos : 0 < 10 * n + digitValue c := by omega
    rw [List.foldl_cons, ih hpos hrest,
      ← Nat.toDigits_append_toDigits (by decide) hn (digitChar_digitValue hc).1,
      toDigits_digitValue hc, List.append_assoc, List.singleton_append]

/-- The digits of the number that digits denote are these without the zeros in front. -/
theorem toDigits_ofDigits {digits : List Char} (h : ∀ c ∈ digits, c.isDigit = true) :
  Nat.toDigits 10 (ofDigits digits) = dropZeros digits
  := by
  induction digits with
  | nil => rfl
  | cons c rest ih =>
    obtain ⟨hc, hrest⟩ := List.forall_mem_cons.mp h
    rw [dropZeros]
    split
    · next hzero =>
      rw [← ih hrest, hzero]
      rfl
    · next hzero =>
      have hpos : 0 < digitValue c := by
        apply Nat.pos_of_ne_zero
        intro hvalue
        apply hzero
        rw [← (digitChar_digitValue hc).2, hvalue]
        rfl
      rw [ofDigits, List.foldl_cons, Nat.mul_zero, Nat.zero_add, toDigits_foldl hpos hrest,
        toDigits_digitValue hc, List.singleton_append]

/-- One text has more zeros in front than another, which is one or more digits. -/
def AddsZeros (text more : String) : Prop :=
  text.toList ≠ [] ∧ (∀ c ∈ text.toList, c.isDigit = true) ∧
    ∃ count, more.toList = List.replicate count '0' ++ text.toList

/-- Zeros in front do not matter to what digits denote. -/
theorem ofDigits_replicate (count : Nat) (digits : List Char) :
  ofDigits (List.replicate count '0' ++ digits) = ofDigits digits
  := by
  induction count with
  | zero => rfl
  | succ count ih =>
    rw [List.replicate_succ, List.cons_append]
    exact ih

/-- Zeros in front do not matter to the number that a text denotes. -/
theorem AddsZeros.ofDecimal?_eq {text more : String} (h : AddsZeros text more) :
  ofDecimal? more = ofDecimal? text
  := by
  obtain ⟨hne, hdigits, count, hmore⟩ := h
  have hless := ofDecimal?_eq_some_iff.mpr ⟨hne, hdigits, rfl⟩
  rw [hless, ofDecimal?_eq_some_iff, hmore]
  refine ⟨?_, ?_, ofDigits_replicate count text.toList⟩
  · intro hnil
    exact hne (List.append_eq_nil_iff.mp hnil).2
  · intro c hc
    rcases List.mem_append.mp hc with hzero | hc
    · rw [List.eq_of_mem_replicate hzero]
      rfl
    · apply hdigits c hc

end BeaconLight.Text

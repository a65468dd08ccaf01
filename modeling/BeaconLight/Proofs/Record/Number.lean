import Mathlib.Data.List.Induction
import Mathlib.Data.Nat.Digits.Defs
import BeaconLight.Proofs.Record.Section
import BeaconLight.Proofs.Text.Digits

/-!
# Decimal members

A member is read as a number when its value is text of one or more ASCII digits, which may have
zeros in front, and the number that they denote by their places is below the limit.
`NumberOutcome` says what each value of a member comes to. There is nothing between: a value that
is not read is reported as a bad number under the path of the member.
-/

namespace BeaconLight

/-! ### Digits by their places -/

namespace Text

/-- A text is one or more ASCII digits. -/
def IsDigits (text : String) : Prop :=
  text.toList ≠ [] ∧ ∀ c ∈ text.toList, '0' ≤ c ∧ c ≤ '9'

/-- A text is one or more ASCII digits that denote a number by their places. -/
def Denotes (text : String) (n : Nat) : Prop :=
  IsDigits text ∧ Nat.ofDigits 10 (text.toList.reverse.map fun c => c.toNat - '0'.toNat) = n

/-- Digits denote the sum of their values, each times a power of ten for its place. -/
theorem ofDigits_eq_ofDigits_reverse (digits : List Char) :
  ofDigits digits = Nat.ofDigits 10 (digits.reverse.map digitValue)
  := by
  induction digits using List.reverseRecOn with
  | nil => rfl
  | append_singleton front c ih =>
    rw [List.reverse_append, List.reverse_singleton, List.singleton_append, List.map_cons,
      Nat.ofDigits_cons, ← ih, ofDigits, List.foldl_append, List.foldl_cons, List.foldl_nil,
      ← ofDigits, Nat.add_comm]

/-- A text is read exactly as the number that it denotes. -/
theorem ofDecimal?_eq_some_iff_denotes {text : String} {n : Nat} :
  ofDecimal? text = some n ↔ Denotes text n
  := by
  have hdigit (c : Char) : c.isDigit = true ↔ '0' ≤ c ∧ c ≤ '9' := by
    rw [Char.isDigit, Bool.and_eq_true, decide_eq_true_eq, decide_eq_true_eq]
    rfl
  rw [ofDecimal?_eq_some_iff, ofDigits_eq_ofDigits_reverse, Denotes, IsDigits, and_assoc]
  simp only [hdigit]
  rfl

/-- A text is not read exactly when it is not one or more ASCII digits. -/
theorem ofDecimal?_eq_none_iff {text : String} :
  ofDecimal? text = none ↔ ¬ IsDigits text
  := by
  rw [Option.eq_none_iff_forall_ne_some]
  simp only [ne_eq, ofDecimal?_eq_some_iff_denotes]
  constructor
  · intro h hdigits
    exact h _ ⟨hdigits, rfl⟩
  · intro h n hdenotes
    exact h hdenotes.1

end Text

/-! ### What a value comes to -/

namespace Section

/-- What the value at a path comes to as a number below `2 ^ bits`. -/
inductive NumberOutcome (bits : Nat) (path : String) :
    Json → Except RecordError (BitVec bits) → Prop
  /-- Digits that denote a number below the limit are read as that number. -/
  | read {text : String} {n : BitVec bits} (h : Text.Denotes text n.toNat) :
    NumberOutcome bits path (.string text) (.ok n)
  /-- Digits that denote a number from the limit on are refused. -/
  | tooLarge {text : String} {n : Nat} (h : Text.Denotes text n) (hlarge : 2 ^ bits ≤ n) :
    NumberOutcome bits path (.string text) (.error (.badNumber path (readNumber.tooLarge bits)))
  /-- Other text is shown with the error. -/
  | notDigits {text : String} (h : ¬ Text.IsDigits text) :
    NumberOutcome bits path (.string text)
      (.error (.badNumber path (Text.quoted text ++ " is not an unsigned decimal integer")))
  /-- A value that is no text is refused, a number of JSON like any other. -/
  | notText {value : Json} (h : ∀ text, value ≠ .string text) :
    NumberOutcome bits path value (.error (.badNumber path "expected a decimal string"))

variable {s : Section} {name path : String} {value : Json} {bits : Nat}

/-- A value comes to what it is read as. -/
theorem numberOutcome_readNumber (bits : Nat) (path : String) (value : Json) :
  NumberOutcome bits path value (readNumber bits value path)
  := by
  unfold readNumber
  split
  case h_1 text =>
    split
    case h_1 hread => exact .notDigits (Text.ofDecimal?_eq_none_iff.mp hread)
    case h_2 n hread =>
      have hdenotes := Text.ofDecimal?_eq_some_iff_denotes.mp hread
      split
      case isTrue hlt =>
        have hmod : n % 2 ^ bits = n := Nat.mod_eq_of_lt hlt
        apply NumberOutcome.read
        rwa [BitVec.toNat_ofNat, hmod]
      case isFalse hge => exact .tooLarge hdenotes (Nat.le_of_not_lt hge)
  case h_2 hstring => exact .notText hstring

/-- What a value comes to is what it is read as. -/
theorem numberOutcome_iff {result : Except RecordError (BitVec bits)} :
  NumberOutcome bits path value result ↔ readNumber bits value path = result
  := by
  constructor
  · intro h
    cases h with
    | read h =>
      apply readNumber_eq_ok_iff.mpr
      exact ⟨_, rfl, Text.ofDecimal?_eq_some_iff_denotes.mpr h⟩
    | tooLarge h hlarge =>
      rw [readNumber, Text.ofDecimal?_eq_some_iff_denotes.mpr h]
      exact if_neg (Nat.not_lt_of_le hlarge)
    | notDigits h => rw [readNumber, Text.ofDecimal?_eq_none_iff.mpr h]
    | notText h =>
      unfold readNumber
      split
      · next text => exact absurd rfl (h text)
      · rfl
  · rintro rfl
    apply numberOutcome_readNumber

/-- A value that is not read is a bad number under its path. -/
theorem NumberOutcome.eq_ok_or_badNumber {result : Except RecordError (BitVec bits)}
    (h : NumberOutcome bits path value result) :
  (∃ n, result = .ok n) ∨ ∃ reason, result = .error (.badNumber path reason)
  := by
  cases h with
  | read => exact .inl ⟨_, rfl⟩
  | tooLarge => exact .inr ⟨_, rfl⟩
  | notDigits => exact .inr ⟨_, rfl⟩
  | notText => exact .inr ⟨_, rfl⟩

theorem number_of_find? (hfind : Json.find? name s.members = some value) (hnull : value ≠ .null) :
  s.number name bits = readNumber bits value (s.pathOf name)
  := by
  rw [number, required_eq_ok_iff.mpr ⟨hfind, hnull⟩]
  rfl

/-- A member that is there and is not `null` is read as a number exactly when it is text of one or
more ASCII digits that denote a number below the limit, and then as that number. Every other value
is reported as a bad number under the path of the member. The decimal text of each number below
the limit is read as that number. -/
theorem number_exact (s : Section) (name : String) {value : Json}
    (hfind : Json.find? name s.members = some value) (hnull : value ≠ .null) (bits : Nat) :
  (∀ n : BitVec bits, s.number name bits = .ok n ↔
    ∃ text, value = .string text ∧ Text.Denotes text n.toNat) ∧
  ((¬ ∃ text n, value = .string text ∧ Text.Denotes text n ∧ n < 2 ^ bits) →
    ∃ reason, s.number name bits = .error (.badNumber (s.pathOf name) reason)) ∧
  (∀ result, s.number name bits = result ↔ NumberOutcome bits (s.pathOf name) value result) ∧
  ∀ n : BitVec bits, value = .string (Text.decimal n.toNat) → s.number name bits = .ok n
  := by
  have hread (n : BitVec bits) : s.number name bits = .ok n ↔
      ∃ text, value = .string text ∧ Text.Denotes text n.toNat := by
    simp only [number_of_find? hfind hnull, readNumber_eq_ok_iff, Json.SpellsNumber,
      Text.ofDecimal?_eq_some_iff_denotes]
  refine ⟨hread, ?_, ?_, ?_⟩
  · intro hnone
    have houtcome := numberOutcome_readNumber bits (s.pathOf name) value
    rw [← number_of_find? hfind hnull] at houtcome
    rcases houtcome.eq_ok_or_badNumber with ⟨n, hn⟩ | herror
    · obtain ⟨text, htext, hdenotes⟩ := (hread n).mp hn
      exact absurd ⟨text, n.toNat, htext, hdenotes, n.isLt⟩ hnone
    · exact herror
  · intro result
    rw [number_of_find? hfind hnull, numberOutcome_iff]
  · rintro n rfl
    apply (hread n).mpr
    exact ⟨_, rfl, Text.ofDecimal?_eq_some_iff_denotes.mp (Text.ofDecimal?_decimal n.toNat)⟩

/-- The first number that is too large for 64 bits is refused as one, and read as one of 256. -/
theorem number_exact_limit :
  let s : Section := ⟨"header", [("slot", .string "0018446744073709551616")]⟩
  s.number "slot" 64
    = .error (.badNumber "header.slot" "number too large to fit in target type") ∧
  s.number "slot" 256 = .ok (BitVec.ofNat 256 18446744073709551616)
  := by
  intro s
  have hdenotes : Text.Denotes "0018446744073709551616" 18446744073709551616 :=
    Text.ofDecimal?_eq_some_iff_denotes.mp (by decide +kernel)
  have hfind : Json.find? "slot" s.members = some (.string "0018446744073709551616") := rfl
  obtain ⟨-, -, hword, -⟩ := number_exact s "slot" hfind nofun 64
  obtain ⟨hwide, -⟩ := number_exact s "slot" hfind nofun 256
  constructor
  · exact (hword _).mpr (.tooLarge hdenotes (by decide))
  · exact (hwide _).mpr ⟨_, rfl, hdenotes⟩

end Section

end BeaconLight

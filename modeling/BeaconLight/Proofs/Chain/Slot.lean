import BeaconLight.Chain.Spec

/-!
# Sync committee periods

The slots of a sync committee period are those from a multiple of its length up to the next. The
period of a slot is worked out by two divisions, one after the other, and is the one that the slot
lies in. The length itself is not needed for that and may be above all numbers of 64 bits.
-/

namespace BeaconLight

namespace Slot

/-- The slot lies in the period of an index, when periods have a length. -/
def InPeriod (length period slot : Nat) : Prop :=
  period * length ≤ slot ∧ slot < (period + 1) * length

instance (length period slot : Nat) : Decidable (InPeriod length period slot) :=
  inferInstanceAs (Decidable (_ ∧ _))

/-- A slot lies in the period that division by the length gives, and in no other. -/
theorem inPeriod_iff {length period slot : Nat} (hlength : length ≠ 0) :
  InPeriod length period slot ↔ slot / length = period
  := by
  have hpos : 0 < length := Nat.pos_of_ne_zero hlength
  constructor
  · rintro ⟨hlow, hhigh⟩
    apply Nat.le_antisymm
    · apply Nat.le_of_lt_succ
      exact (Nat.div_lt_iff_lt_mul hpos).mpr hhigh
    · exact (Nat.le_div_iff_mul_le hpos).mpr hlow
  · rintro rfl
    constructor
    · apply Nat.div_mul_le_self
    · exact (Nat.div_lt_iff_lt_mul hpos).mp (Nat.lt_succ_self _)

/-- Dividing by one count and then by the other is dividing by the length of a period. -/
theorem period?_of_ne_zero {slotsPerEpoch epochsPerPeriod : Nat} (hslots : slotsPerEpoch ≠ 0)
    (hepochs : epochsPerPeriod ≠ 0) (slot : Nat) :
  period? slotsPerEpoch epochsPerPeriod slot = some (slot / (slotsPerEpoch * epochsPerPeriod))
  := by
  rw [period?, epoch?, if_neg hslots]
  dsimp only
  rw [if_neg hepochs, Nat.div_div_eq_div_mul]

end Slot

/-- The length of a period is taken for zero exactly when one of the counts is zero, however great
the other is. -/
theorem Spec.period_eq_zero_iff (spec : Spec) :
  spec.period = 0 ↔ spec.slotsPerEpoch = 0 ∨ spec.epochsPerPeriod = 0
  := by
  have hgreatest : greatestWord ≠ 0 := by decide
  rw [period, Nat.min_eq_zero_iff, or_iff_left hgreatest, Nat.mul_eq_zero]
  apply or_comm

end BeaconLight

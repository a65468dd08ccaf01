import BeaconLight.Bytes
import Mathlib.Algebra.Ring.Nat

/-!
# Numbers and their bytes

A number that fits the given bytes is read back from them, and bytes are written back from
the number that they denote.
-/

namespace BeaconLight

/-- A number below `256 ^ width` is read back from its bytes. -/
theorem ofLittleEndian_littleEndian {width value : Nat} (h : value < 256 ^ width) :
  ofLittleEndian (littleEndian width value) = value
  := by
  induction width generalizing value with
  | zero =>
    obtain rfl : value = 0 := by omega
    rfl
  | succ width ih =>
    have hdiv : value / 256 < 256 ^ width := by
      rw [Nat.div_lt_iff_lt_mul (by omega)]
      rwa [Nat.pow_succ] at h
    simp only [littleEndian, ofLittleEndian, ih hdiv, UInt8.toNat_ofNat']
    omega

/-- Bytes are written back from the number they denote. -/
theorem littleEndian_ofLittleEndian (bytes : List UInt8) :
  littleEndian bytes.length (ofLittleEndian bytes) = bytes
  := by
  induction bytes with
  | nil => rfl
  | cons byte rest ih =>
    have hbyte : byte.toNat < 256 := byte.toNat_lt
    have hmod : (byte.toNat + 256 * ofLittleEndian rest) % 256 = byte.toNat := by omega
    have hdiv : (byte.toNat + 256 * ofLittleEndian rest) / 256 = ofLittleEndian rest := by omega
    simp [littleEndian, ofLittleEndian, hmod, hdiv, ih]

/-- Bytes denote a number below `256` to the power of their count. -/
theorem ofLittleEndian_lt (bytes : List UInt8) :
  ofLittleEndian bytes < 256 ^ bytes.length
  := by
  induction bytes with
  | nil => simp [ofLittleEndian]
  | cons byte rest ih =>
    have hbyte : byte.toNat < 256 := byte.toNat_lt
    simp only [ofLittleEndian, List.length_cons, Nat.pow_succ]
    omega

end BeaconLight

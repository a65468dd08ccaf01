import BeaconLight.Hex
import BeaconLight.Keccak

/-!
# Checksummed addresses

An address shows as `0x` and forty digits whose letter case carries a checksum: a letter is
upper case when the digit at its place in the Keccak-256 digest of the lower-case digits is
eight or more.
-/

namespace BeaconLight.Address

/-- The digits with each letter in upper case where the mask has a value of eight or more. -/
def applyCase : List Char → List Nat → List Char
  | c :: cs, n :: ns => (if 8 ≤ n then c.toUpper else c) :: applyCase cs ns
  | cs, [] => cs
  | [], _ => []

/-- The two halves of each byte, the high one first. -/
def halves (bytes : List UInt8) : List Nat :=
  bytes.flatMap fun byte => [byte.toNat / 16, byte.toNat % 16]

/-- An address with the letter case of its checksum. -/
def checksummed (address : List UInt8) : String :=
  let digits := Hex.digits address
  let mask := halves (Keccak.digest (digits.map fun c => UInt8.ofNat c.toNat))
  String.ofList ('0' :: 'x' :: applyCase digits mask)

end BeaconLight.Address

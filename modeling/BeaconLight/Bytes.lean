/-!
# Bytes of a known length

`Sized α n` is a list of exactly `n` elements, and `Bytes n` a string of exactly `n`
bytes. `littleEndian` writes a natural number into a given number of bytes, least
significant byte first, and `ofLittleEndian` reads it back.
-/

namespace BeaconLight

/-- A list of exactly `n` elements. -/
abbrev Sized (α : Type) (n : Nat) : Type := { xs : List α // xs.length = n }

/-- A string of exactly `n` bytes. -/
abbrev Bytes (n : Nat) : Type := Sized UInt8 n

/-- The list as a list of `n` elements, if that is its length. -/
def Sized.ofList? {α : Type} (n : Nat) (xs : List α) : Option (Sized α n) :=
  if h : xs.length = n then some ⟨xs, h⟩ else none

/-- The sized list has the elements of the list it was made from. -/
theorem Sized.ofList?_eq_some_iff {α : Type} {n : Nat} {xs : List α} {ys : Sized α n} :
  Sized.ofList? n xs = some ys ↔ xs = ys.val
  := by
  unfold Sized.ofList?
  split
  · simp [Subtype.ext_iff]
  · constructor
    · simp
    · rintro rfl
      exact absurd ys.property ‹_›

/-- The `width` low bytes of a natural number, least significant first. -/
def littleEndian : Nat → Nat → List UInt8
  | 0, _ => []
  | width + 1, value => UInt8.ofNat (value % 256) :: littleEndian width (value / 256)

/-- The natural number that bytes denote, least significant first. -/
def ofLittleEndian : List UInt8 → Nat
  | [] => 0
  | byte :: rest => byte.toNat + 256 * ofLittleEndian rest

@[simp]
theorem length_littleEndian (width value : Nat) :
  (littleEndian width value).length = width
  := by
  induction width generalizing value with
  | zero => rfl
  | succ width ih => simp [littleEndian, ih]

end BeaconLight

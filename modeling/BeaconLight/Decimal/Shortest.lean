/-!
# The shortest decimal of a double

A finite double is `mantissa * 2 ^ exponent`. Of the decimals that round to it, `shortest`
gives one with the fewest digits, and of those the nearest. It tries one digit, two digits
and so on; on each grid only the two neighbours of the double can be the nearest, and they
are compared with the ends of the rounding interval in exact arithmetic.
-/

namespace BeaconLight

/-- A decimal, `digits * 10 ^ exponent`. -/
structure Decimal where
  digits : Nat
  exponent : Int
  deriving DecidableEq, Repr

namespace Decimal

/-- A positive finite double, `mantissa * 2 ^ exponent`. The gap below it is half as wide as
the gap above when `narrowBelow` holds. -/
structure Binary where
  mantissa : Nat
  exponent : Int
  narrowBelow : Bool
  deriving DecidableEq, Repr

/-- The magnitude that the 63 low bits of a double hold. -/
def Binary.ofBits (bits : UInt64) : Binary :=
  let field : Nat := (bits.toNat / Nat.pow 2 52) % Nat.pow 2 11
  let fraction : Nat := bits.toNat % Nat.pow 2 52
  if field = 0 then ⟨fraction, -1074, false⟩
  else ⟨Nat.pow 2 52 + fraction, (field : Int) - 1075, fraction == 0 && 1 < field⟩

/-- Compares `a * 10 ^ s` with `b * 2 ^ p`. -/
def compareScaled (a : Nat) (s : Int) (b : Nat) (p : Int) : Ordering :=
  compare (a * Nat.pow 10 s.toNat * Nat.pow 2 (-p).toNat)
    (b * Nat.pow 2 p.toNat * Nat.pow 10 (-s).toNat)

/-- The greatest natural number `a` with `a * 10 ^ s ≤ b * 2 ^ p`. -/
def floorScaled (s : Int) (b : Nat) (p : Int) : Nat :=
  (b * Nat.pow 2 p.toNat * Nat.pow 10 (-s).toNat)
    / (Nat.pow 10 s.toNat * Nat.pow 2 (-p).toNat)

/-- The number of decimal digits of a natural number. -/
def digitCount (n : Nat) : Nat :=
  (Nat.toDigits 10 n).length

/-- The power of ten of the first digit: the greatest `e` with `10 ^ e ≤ x`. -/
def Binary.magnitude (x : Binary) : Int :=
  let above := floorScaled 0 x.mantissa x.exponent
  if 0 < above then (digitCount above : Int) - 1
  else
    let inverse := Nat.pow 2 (-x.exponent).toNat / x.mantissa
    let e := -((digitCount inverse : Int) - 1)
    if compareScaled 1 e x.mantissa x.exponent = .gt then e - 1 else e

/-- Whether `a * 10 ^ s` rounds to the double: it is within half a gap, and the middle of a
gap belongs to the double with the even mantissa. -/
def Binary.contains (x : Binary) (a : Nat) (s : Int) : Bool :=
  let least := 4 * x.mantissa - (if x.narrowBelow then 1 else 2)
  let greatest := 4 * x.mantissa + 2
  let below := compareScaled a s least (x.exponent - 2)
  let above := compareScaled a s greatest (x.exponent - 2)
  if x.mantissa % 2 = 0 then below != .lt && above != .gt
  else below == .gt && above == .lt

/-- The neighbour of the double on the grid of multiples of `10 ^ s` that rounds to it and
is the nearer of the two, if one of them does; a tie goes to the even one. -/
def Binary.onGrid (x : Binary) (s : Int) : Option Nat :=
  let a := floorScaled s x.mantissa x.exponent
  match x.contains a s, x.contains (a + 1) s with
  | true, true =>
    match compareScaled (2 * a + 1) s (2 * x.mantissa) x.exponent with
    | .gt => some a
    | .lt => some (a + 1)
    | .eq => some (if a % 2 = 0 then a else a + 1)
  | true, false => some a
  | false, true => some (a + 1)
  | false, false => none

/-- The digits without zeros at their end; the zeros go into the exponent. -/
def trimmed (d : Decimal) : Decimal :=
  go 20 d
where
  go : Nat → Decimal → Decimal
    | 0, d => d
    | fuel + 1, d =>
      if d.digits ≠ 0 ∧ d.digits % 10 = 0 then go fuel ⟨d.digits / 10, d.exponent + 1⟩ else d

/-- The shortest decimal that rounds to a positive double, the nearest of those. Seventeen
digits are always enough. -/
def shortest (x : Binary) : Decimal :=
  let e := x.magnitude
  go x e 17 1
where
  go (x : Binary) (e : Int) : Nat → Nat → Decimal
    | 0, _ => ⟨floorScaled (e - 16) x.mantissa x.exponent, e - 16⟩
    | fuel + 1, count =>
      let s := e + 1 - count
      match x.onGrid s with
      | some a => trimmed ⟨a, s⟩
      | none => go x e fuel (count + 1)

end Decimal

end BeaconLight

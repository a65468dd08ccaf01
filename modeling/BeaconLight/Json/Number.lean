import BeaconLight.Decimal.Shortest
import BeaconLight.Text.Digits

/-!
# Numbers in JSON text

A `Literal` is a number as it is spelled. Its `value?` is one of three kinds of `Number`: a
natural number below `2 ^ 64`, a negative integer down to `-2 ^ 63`, or a double, which is
kept as its 64 bits. A literal with a fraction or an exponent, one that is out of the range
of the integers, and `-0` are doubles.

The double is built from the leading digits that fit 64 bits and a power of ten, each step
rounded once, so it can differ from the nearest double in the last place.
-/

namespace BeaconLight.Json

/-- A number as it is spelled: its sign, its digits before and after the point, and its
exponent. -/
structure Literal where
  negative : Bool
  whole : List Char
  fraction : Option (List Char)
  exponent : Option (Bool × List Char)
  deriving DecidableEq, Repr, Inhabited

/-- The value of a number: a natural number below `2 ^ 64`, the negative integer `-magnitude`
with `0 < magnitude ≤ 2 ^ 63`, or the double with the given bits. -/
inductive Number
  | natural (value : Nat)
  | negative (magnitude : Nat)
  | double (bits : UInt64)
  deriving DecidableEq, Repr, Inhabited

/-- The least natural number that 64 bits do not hold. -/
def wordLimit : Nat := Nat.pow 2 64

/-- The digits of a literal up to the first that takes the number they spell past 64 bits,
and how many were left out. -/
def leadingDigits : Nat → List Char → Nat × Nat
  | n, [] => (n, 0)
  | n, c :: rest =>
    let next := 10 * n + Text.digitValue c
    if next < wordLimit then leadingDigits next rest else (n, rest.length + 1)

/-- The number that fraction digits extend, and how many of them were taken in before the
first that does not fit 64 bits. -/
def extendByFraction : Nat → List Char → Nat × Nat
  | n, [] => (n, 0)
  | n, c :: rest =>
    let next := 10 * n + Text.digitValue c
    if next < wordLimit then
      let (m, taken) := extendByFraction next rest
      (m, taken + 1)
    else (n, 0)

/-- The powers of ten that a double is multiplied or divided by in one step go up to this
one. -/
def largestPower : Nat := 308

/-- A power of ten as a double. -/
def powerOfTen (exponent : Nat) : Float :=
  Float.ofScientific 1 false exponent

/-- A double times a power of ten, if the product is finite. -/
def scaleUp (x : Float) (exponent : Nat) : Option Float :=
  if exponent ≤ largestPower then
    let y := x * powerOfTen exponent
    if y.isInf then none else some y
  else if x == 0 then some x
  else none

/-- A double divided by a power of ten, in steps of the largest power. -/
def scaleDown (x : Float) (exponent : Nat) : Float :=
  if exponent ≤ largestPower then x / powerOfTen exponent
  else if x == 0 then x
  else scaleDown (x / powerOfTen largestPower) (exponent - largestPower)
termination_by exponent
decreasing_by simp only [largestPower]; omega

/-- The bits of a double, with its sign. -/
def signedBits (negative : Bool) (x : Float) : UInt64 :=
  (if negative then -x else x).toBits

/-- The exponents that a literal may spell are below this one; one beyond it makes the
number zero or puts it out of range. -/
def exponentLimit : Nat := Nat.pow 2 31

/-- The double with the given digits and power of ten, if it is finite. -/
def scaled (digits : Nat) (exponent : Int) : Option Float :=
  let x := (UInt64.ofNat digits).toFloat
  if 0 ≤ exponent then scaleUp x exponent.toNat else some (scaleDown x exponent.natAbs)

/-- An integer kept between `-2 ^ 31` and `2 ^ 31 - 1`. -/
def clampExponent (n : Int) : Int :=
  max (-(exponentLimit : Int)) (min n (exponentLimit - 1))

/-- The value of a literal, or nothing if it is out of the range of doubles. -/
def Literal.value? (l : Literal) : Option Number :=
  let (digits, dropped) := leadingDigits 0 l.whole
  match l.fraction, l.exponent with
  | none, none =>
    if dropped = 0 ∧ l.negative = false then some (.natural digits)
    else if dropped = 0 ∧ 0 < digits ∧ digits ≤ Nat.pow 2 63 then some (.negative digits)
    else double digits dropped
  | some fraction, none =>
    let (digits, taken) := extendByFraction digits fraction
    double digits (dropped - taken)
  | fraction, some (below, exponent) =>
    let (digits, taken) := extendByFraction digits (fraction.getD [])
    let power := Text.ofDigits exponent
    if exponentLimit ≤ power then
      if digits ≠ 0 ∧ below = false then none
      else some (.double (signedBits l.negative 0))
    else
      let shift : Int := if below then -power else power
      double digits (clampExponent (dropped - taken + shift))
where
  double (digits : Nat) (exponent : Int) : Option Number :=
    (scaled digits exponent).map fun x => .double (signedBits l.negative x)

/-- The literal of an integer, given by its sign and magnitude. -/
def Literal.ofInteger (negative : Bool) (magnitude : Nat) : Literal :=
  ⟨negative, (Text.decimal magnitude).toList, none, none⟩

/-- Doubles are written positionally when the power of ten of their first digit is in this
range, both ends included. -/
def positionalRange : Int × Int := (-5, 15)

/-- The literal of a finite double: the fewest digits that read back, with a digit on each
side of the point in positional form, and one digit before the point in front of an
exponent. -/
def Literal.ofDouble (bits : UInt64) : Literal :=
  let negative := bits.toNat / Nat.pow 2 63 == 1
  let x := Decimal.Binary.ofBits bits
  if x.mantissa = 0 then ⟨negative, ['0'], some ['0'], none⟩
  else
    let d := Decimal.shortest x
    let digits := (Text.decimal d.digits).toList
    let point : Int := digits.length + d.exponent
    let power := point - 1
    if positionalRange.1 ≤ power ∧ power ≤ positionalRange.2 then
      if point ≤ 0 then
        ⟨negative, ['0'], some (List.replicate (-point).toNat '0' ++ digits), none⟩
      else if digits.length ≤ point then
        ⟨negative, digits ++ List.replicate (point - digits.length).toNat '0', some ['0'], none⟩
      else ⟨negative, digits.take point.toNat, some (digits.drop point.toNat), none⟩
    else
      let fraction := if digits.length = 1 then none else some (digits.drop 1)
      ⟨negative, digits.take 1, fraction,
        some (decide (power < 0), (Text.decimal power.natAbs).toList)⟩

/-- The literal that a number is written as. -/
def Number.literal : Number → Literal
  | .natural n => .ofInteger false n
  | .negative n => .ofInteger true n
  | .double bits => .ofDouble bits

/-- The characters of a literal. -/
def Literal.spell (l : Literal) : List Char :=
  (if l.negative then ['-'] else []) ++ l.whole
    ++ (match l.fraction with | some digits => '.' :: digits | none => [])
    ++ (match l.exponent with
        | some (below, digits) => 'e' :: (if below then '-' else '+') :: digits
        | none => [])

end BeaconLight.Json

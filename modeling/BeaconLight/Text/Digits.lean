/-!
# Decimal and hexadecimal digits

`decimal` writes a natural number without leading zeros, and `ofDecimal?` reads one from
any run of ASCII digits. `decimal?` reads the looser form that command lines and
configuration files use, with an optional plus sign, and says why a text is refused.
-/

namespace BeaconLight.Text

/-- The decimal digits of a natural number, without leading zeros. -/
def decimal (n : Nat) : String :=
  String.ofList (Nat.toDigits 10 n)

/-- The value of a decimal digit. -/
def digitValue (c : Char) : Nat :=
  c.toNat - '0'.toNat

/-- The number that a list of decimal digits denotes, most significant first. -/
def ofDigits (digits : List Char) : Nat :=
  digits.foldl (fun n c => 10 * n + digitValue c) 0

/-- The number that a text of one or more ASCII digits denotes. -/
def ofDecimal? (text : String) : Option Nat :=
  let digits := text.toList
  if digits ≠ [] ∧ digits.all Char.isDigit then some (ofDigits digits) else none

/-- The digits of a natural number in base sixteen, in lower case and without leading
zeros. -/
def hexadecimal (n : Nat) : String :=
  String.ofList (Nat.toDigits 16 n)

/-- Why a text is not an unsigned integer of a given size. -/
inductive IntegerError
  | empty
  | invalidDigit
  | tooLarge
  deriving DecidableEq, Repr

/-- The wording of an integer error. -/
def IntegerError.message : IntegerError → String
  | .empty => "cannot parse integer from empty string"
  | .invalidDigit => "invalid digit found in string"
  | .tooLarge => "number too large to fit in target type"

/-- Reads an integer below `limit`, with an optional plus sign in front of the digits.

The digits are read from the left, and the first that is no digit or takes the number past
the limit decides which error is reported. A lone sign is an invalid digit. -/
def unsigned? (limit : Nat) (text : String) : Except IntegerError Nat :=
  match text.toList with
  | [] => .error .empty
  | ['+'] => .error .invalidDigit
  | ['-'] => .error .invalidDigit
  | '+' :: digits => go digits 0
  | digits => go digits 0
where
  go : List Char → Nat → Except IntegerError Nat
    | [], n => .ok n
    | c :: rest, n =>
      if c.isDigit then
        let next := 10 * n + digitValue c
        if next < limit then go rest next else .error .tooLarge
      else .error .invalidDigit

end BeaconLight.Text

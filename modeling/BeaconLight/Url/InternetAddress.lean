import BeaconLight.Hex

/-!
# Internet addresses

A host whose last part is a number is an address of version 4. It is written as up to four
numbers with dots between them, each decimal, octal with a leading zero, or hexadecimal with
a leading `0x`, and the last number fills the bytes that the others leave. An address of
version 6 is written between brackets as eight pieces of up to four hexadecimal digits; two
colons stand for a run of zeros, and the last two pieces may be an address of version 4.
-/

namespace BeaconLight.InternetAddress

/-- The parts of a list between the elements that satisfy a test. -/
def splitBy {α : Type} (test : α → Bool) : List α → List (List α)
  | [] => [[]]
  | x :: xs =>
    if test x then [] :: splitBy test xs
    else
      match splitBy test xs with
      | part :: parts => (x :: part) :: parts
      | [] => [[x]]

/-- The number that digits denote in a base. -/
def ofDigits? (base : Nat) (digits : List Char) : Option Nat :=
  digits.foldl step (some 0)
where
  step (n : Option Nat) (c : Char) : Option Nat :=
    match n, Hex.digitValue? c with
    | some n, some d => if d < base then some (base * n + d) else none
    | _, _ => none

/-- A number of an address of version 4. -/
def number? : List Char → Option Nat
  | [] => none
  | '0' :: 'x' :: digits => ofDigits? 16 digits
  | '0' :: 'X' :: digits => ofDigits? 16 digits
  | '0' :: digit :: digits => ofDigits? 8 (digit :: digits)
  | digits => ofDigits? 10 digits

/-- The parts of a name between dots, without an empty one at the end. -/
def parts (name : List Char) : List (List Char) :=
  let all := splitBy (· == '.') name
  if 1 < all.length ∧ all.getLast? = some [] then all.dropLast else all

/-- A name whose last part is a number. -/
def endsInNumber (name : List Char) : Bool :=
  match (parts name).getLast? with
  | none | some [] => false
  | some last => last.all Char.isDigit || (number? last).isSome

/-- The address that numbers denote, `value` being that of the ones in front. -/
def combine? (value : Nat) : (room : Nat) → List Nat → Option Nat
  | room, [last] => if last < Nat.pow 256 room then some (Nat.pow 256 room * value + last) else none
  | room + 1, n :: rest => if n < 256 then combine? (256 * value + n) room rest else none
  | _, _ => none

/-- The address of version 4 that a name spells. -/
def version4? (name : List Char) : Option Nat := do
  let numbers ← (parts name).mapM number?
  if numbers.length ≤ 4 then combine? 0 4 numbers else none

/-- The two pieces of an address of version 6 that a dotted address denotes. -/
def dottedPieces? (cs : List Char) : Option (List Nat) :=
  match splitBy (· == '.') cs with
  | [a, b, c, d] => do
    let bytes ← [a, b, c, d].mapM byte?
    match bytes with
    | [a, b, c, d] => some [256 * a + b, 256 * c + d]
    | _ => none
  | _ => none
where
  byte? : List Char → Option Nat
    | [] => none
    | '0' :: _ :: _ => none
    | digits =>
      match ofDigits? 10 digits with
      | some n => if n < 256 then some n else none
      | none => none

/-- The piece that one to four hexadecimal digits denote. -/
def piece? (digits : List Char) : Option Nat :=
  if digits ≠ [] ∧ digits.length ≤ 4 then ofDigits? 16 digits else none

/-- The pieces between colons; the last of them may be a dotted address. -/
def pieces? (dotted : Bool) : List (List Char) → Option (List Nat)
  | [] => some []
  | [last] =>
    if dotted && last.contains '.' then dottedPieces? last else (piece? last).map ([·])
  | part :: rest => do
    let n ← piece? part
    let others ← pieces? dotted rest
    return n :: others

/-- The pieces of one side of the run of zeros. -/
def side? (dotted : Bool) (cs : List Char) : Option (List Nat) :=
  if cs = [] then some [] else pieces? dotted (splitBy (· == ':') cs)

/-- The part of a text in front of the first two colons in a row and the part behind them. -/
def cutAtRun? : List Char → Option (List Char × List Char)
  | ':' :: ':' :: rest => some ([], rest)
  | c :: rest => (cutAtRun? rest).map fun (before, behind) => (c :: before, behind)
  | [] => none

/-- The eight pieces of an address of version 6. -/
def version6? (cs : List Char) : Option (List Nat) :=
  match cutAtRun? cs with
  | none => do
    let pieces ← side? true cs
    if pieces.length = 8 then some pieces else none
  | some (before, behind) => do
    let front ← side? false before
    let back ← side? true behind
    if front.length + back.length ≤ 7 then
      some (front ++ List.replicate (8 - front.length - back.length) 0 ++ back)
    else none

/-- An address of version 4 as four decimal numbers. -/
def renderVersion4 (address : Nat) : String :=
  ".".intercalate ([Nat.pow 256 3, Nat.pow 256 2, 256, 1].map fun place =>
    Text.decimal (address / place % 256))

/-- The length of the run of zeros at the start of pieces. -/
def zeros (pieces : List Nat) : Nat :=
  (pieces.takeWhile (· == 0)).length

/-- Where the first of the longest runs of zeros starts and how long it is. -/
def longestRun (pieces : List Nat) : Nat × Nat :=
  (List.range pieces.length).foldl
    (fun best i =>
      let n := zeros (pieces.drop i)
      if best.2 < n then (i, n) else best)
    (0, 0)

/-- An address of version 6, with two colons for the longest run of more than one zero. -/
def renderVersion6 (pieces : List Nat) : String :=
  let (start, length) := longestRun pieces
  let side (ps : List Nat) := ":".intercalate (ps.map Text.hexadecimal)
  if 1 < length then side (pieces.take start) ++ "::" ++ side (pieces.drop (start + length))
  else side pieces

end BeaconLight.InternetAddress

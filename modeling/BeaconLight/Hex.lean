import BeaconLight.Bytes
import BeaconLight.Text.Quoted

/-!
# Hexadecimal text

Bytes are written as `0x` followed by two lower-case digits each. `decode` reads digits of
either case with the mark in front or without it, and `decodeFixed` asks for a given number
of bytes besides.

Two marks may stand in front of the digits: `0x`, which `strip` removes, and then `0x` or
`0X`, which belongs to the digits themselves.
-/

namespace BeaconLight.Hex

/-- Why a text is not the hexadecimal form of the bytes asked for. -/
inductive Error
  /-- The digits do not pair up. -/
  | oddDigits
  /-- The byte at a position, counted after the marks, is no digit. -/
  | invalidDigit (byte : UInt8) (position : Nat)
  /-- The digits spell another number of bytes. -/
  | wrongLength (expected actual : Nat)
  deriving DecidableEq, Repr

/-- The wording of a hexadecimal error; a byte shows as the character of its value. -/
def Error.message : Error → String
  | .oddDigits => "invalid hex string: odd number of digits"
  | .invalidDigit byte position =>
    "invalid hex string: invalid character " ++ Text.quotedChar (Char.ofNat byte.toNat)
      ++ " at position " ++ Text.decimal position
  | .wrongLength expected actual =>
    "expected " ++ Text.decimal expected ++ " bytes, got " ++ Text.decimal actual

/-- The lower-case digit for a number below sixteen. -/
def digit (n : Nat) : Char :=
  if n < 10 then Char.ofNat ('0'.toNat + n) else Char.ofNat ('a'.toNat + (n - 10))

/-- The value of a digit of either case. -/
def digitValue? (c : Char) : Option Nat :=
  if '0' ≤ c ∧ c ≤ '9' then some (c.toNat - '0'.toNat)
  else if 'a' ≤ c ∧ c ≤ 'f' then some (c.toNat - 'a'.toNat + 10)
  else if 'A' ≤ c ∧ c ≤ 'F' then some (c.toNat - 'A'.toNat + 10)
  else none

/-- The two digits of a byte. -/
def byteDigits (byte : UInt8) : List Char :=
  [digit (byte.toNat / 16), digit (byte.toNat % 16)]

/-- The digits of bytes, two each. -/
def digits (bytes : List UInt8) : List Char :=
  bytes.flatMap byteDigits

/-- Bytes as `0x` and their digits. -/
def encode (bytes : List UInt8) : String :=
  String.ofList ('0' :: 'x' :: digits bytes)

/-- A text without the mark `0x` in front, if it has one. -/
def strip (text : String) : String :=
  match text.toList with
  | '0' :: 'x' :: rest => String.ofList rest
  | _ => text

/-- Digits without a mark `0x` or `0X` in front, if they have one. -/
def stripMark : List Char → List Char
  | '0' :: 'x' :: rest => rest
  | '0' :: 'X' :: rest => rest
  | cs => cs

/-- The bytes that pairs of digits spell, the position of the next digit given.

A character that is no digit is reported by its first byte in UTF-8. -/
def ofDigits (position : Nat) : List Char → Except Error (List UInt8)
  | high :: low :: rest =>
    match digitValue? high, digitValue? low with
    | none, _ => .error (.invalidDigit (leadByte high) position)
    | _, none => .error (.invalidDigit (leadByte low) (position + 1))
    | some h, some l => (ofDigits (position + 2) rest).map (UInt8.ofNat (16 * h + l) :: ·)
  | [c] => .error (.invalidDigit (leadByte c) position)
  | [] => .ok []
where
  leadByte (c : Char) : UInt8 :=
    (String.utf8EncodeChar c).headD 0

/-- The number of bytes that characters take in UTF-8. -/
def utf8Length (cs : List Char) : Nat :=
  cs.foldl (fun n c => n + c.utf8Size) 0

/-- Reads hexadecimal text: the digits have to pair up, which is checked first, and each
has to be a digit. -/
def decode (text : String) : Except Error (List UInt8) :=
  let cs := stripMark (strip text).toList
  if utf8Length cs % 2 = 1 then .error .oddDigits else ofDigits 0 cs

/-- Reads hexadecimal text that spells exactly `n` bytes. -/
def decodeFixed (n : Nat) (text : String) : Except Error (Bytes n) := do
  let bytes ← decode text
  if h : bytes.length = n then .ok ⟨bytes, h⟩ else .error (.wrongLength n bytes.length)

end BeaconLight.Hex

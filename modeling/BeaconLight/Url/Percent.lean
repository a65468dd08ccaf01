import BeaconLight.Text.Utf8

/-!
# Percent encoding

In a URL a byte may be written as a percent sign and two hexadecimal digits. `encode` writes
the characters that do not satisfy a test so, byte by byte, and `decode` gives the bytes of a
text in which some are written so. A percent sign that no two digits follow stands for
itself.
-/

namespace BeaconLight.Percent

/-- An upper-case hexadecimal digit. -/
def digit (n : Nat) : Char :=
  if n < 10 then Char.ofNat ('0'.toNat + n) else Char.ofNat ('A'.toNat + (n - 10))

/-- A byte as a percent sign and two digits. -/
def encodeByte (byte : UInt8) : List Char :=
  ['%', digit (byte.toNat / 16), digit (byte.toNat % 16)]

/-- A text with the characters that do not satisfy a test written byte by byte. -/
def encode (keep : Char → Bool) (cs : List Char) : List Char :=
  cs.flatMap fun c =>
    if keep c then [c] else (String.utf8EncodeChar c).flatMap encodeByte

/-- The value of a hexadecimal digit. -/
def digitValue? (byte : UInt8) : Option Nat :=
  if 0x30 ≤ byte ∧ byte ≤ 0x39 then some (byte.toNat - 0x30)
  else if 0x41 ≤ byte ∧ byte ≤ 0x46 then some (byte.toNat - 0x41 + 10)
  else if 0x61 ≤ byte ∧ byte ≤ 0x66 then some (byte.toNat - 0x61 + 10)
  else none

/-- The bytes that a percent-encoded text means. -/
def decode : List UInt8 → List UInt8
  | 0x25 :: high :: low :: rest =>
    match digitValue? high, digitValue? low with
    | some h, some l => UInt8.ofNat (16 * h + l) :: decode rest
    | _, _ => 0x25 :: decode (high :: low :: rest)
  | byte :: rest => byte :: decode rest
  | [] => []

/-- A visible ASCII character. -/
def isVisible (c : Char) : Bool :=
  ' ' < c && c ≤ '~'

/-- The characters that stand as they are in the path of a URL. -/
def isPathChar (c : Char) : Bool :=
  isVisible c && !"\"#<>?^`\x7b\x7d".toList.contains c

/-- The characters that stand as they are in the query of a web URL. -/
def isQueryChar (c : Char) : Bool :=
  isVisible c && !"\"#<>'".toList.contains c

end BeaconLight.Percent

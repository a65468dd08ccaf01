import BeaconLight.Json.Basic

/-!
# Tokens of JSON text

A `Token` is a mark, a word, a number or a string of JSON text; a string keeps the bytes
between its quotes as they stand, and `readString` gives the text those bytes mean. The
token `fault` ends the tokens of a text that cannot be split further.
-/

namespace BeaconLight.Json

/-- A token of JSON text. -/
inductive Token
  | openArray
  | closeArray
  | openObject
  | closeObject
  | comma
  | colon
  | null
  | bool (value : Bool)
  | number (literal : Literal)
  | string (raw : List UInt8)
  | fault
  deriving DecidableEq, Repr, Inhabited

/-- The value of four hexadecimal digits. -/
def hexFour (a b c d : UInt8) : Option Nat := do
  let a ← hexValue a
  let b ← hexValue b
  let c ← hexValue c
  let d ← hexValue d
  return ((a * 16 + b) * 16 + c) * 16 + d
where
  hexValue (byte : UInt8) : Option Nat :=
    if 0x30 ≤ byte ∧ byte ≤ 0x39 then some (byte.toNat - 0x30)
    else if 0x61 ≤ byte ∧ byte ≤ 0x66 then some (byte.toNat - 0x61 + 10)
    else if 0x41 ≤ byte ∧ byte ≤ 0x46 then some (byte.toNat - 0x41 + 10)
    else none

/-- The byte that a backslash and a letter mean. -/
def simpleEscape (letter : UInt8) : Option UInt8 :=
  if letter = 0x22 ∨ letter = 0x5c ∨ letter = 0x2f then some letter
  else if letter = 0x62 then some 0x08
  else if letter = 0x66 then some 0x0c
  else if letter = 0x6e then some 0x0a
  else if letter = 0x72 then some 0x0d
  else if letter = 0x74 then some 0x09
  else none

/-- A code unit that has to be followed by a low surrogate. -/
def isHighSurrogate (unit : Nat) : Bool := 0xd800 ≤ unit && unit < 0xdc00

/-- A code unit that may only follow a high surrogate. -/
def isLowSurrogate (unit : Nat) : Bool := 0xdc00 ≤ unit && unit < 0xe000

/-- Replaces the escapes of a string by the bytes they mean, in front of which come the
bytes already done, last one first. A surrogate on its own means nothing. -/
def unescape (done : List UInt8) : List UInt8 → Option (List UInt8)
  | [] => some done.reverse
  | 0x5c :: 0x75 :: a :: b :: c :: d :: rest =>
    match hexFour a b c d with
    | none => none
    | some unit =>
      if isHighSurrogate unit then
        match rest with
        | 0x5c :: 0x75 :: e :: f :: g :: h :: rest =>
          match hexFour e f g h with
          | none => none
          | some low =>
            if isLowSurrogate low then
              unescape (pushChar (0x10000 + (unit - 0xd800) * 0x400 + (low - 0xdc00)) done) rest
            else none
        | _ => none
      else if isLowSurrogate unit then none
      else unescape (pushChar unit done) rest
  | 0x5c :: letter :: rest =>
    match simpleEscape letter with
    | none => none
    | some byte => unescape (byte :: done) rest
  | 0x5c :: [] => none
  | byte :: rest => unescape (byte :: done) rest
where
  pushChar (code : Nat) (done : List UInt8) : List UInt8 :=
    (String.utf8EncodeChar (Char.ofNat code)).reverse ++ done

/-- The text of a string token: its escapes replaced, and the bytes read as UTF-8. -/
def readString (raw : List UInt8) : Option String := do
  let bytes ← unescape [] raw
  String.fromUTF8? ⟨bytes.toArray⟩

end BeaconLight.Json

/-!
# UTF-8

`Utf8.encode` writes characters as bytes. `Utf8.scan` reads bytes as characters: each run of
bytes that begins like a character and breaks off counts as one malformed sequence, and so
does each byte that begins none. A text is well formed when it has no malformed sequence, and
`decodeLossy` puts the replacement character in place of each.
-/

namespace BeaconLight.Utf8

/-- The UTF-8 bytes of characters. -/
def encode (cs : List Char) : List UInt8 :=
  cs.flatMap String.utf8EncodeChar

/-- A character that has been begun: its bits so far, how many bytes are missing, and the
range of the next one. -/
structure Pending where
  bits : Nat
  missing : Nat
  low : UInt8
  high : UInt8

/-- What has been read: characters and malformed sequences, last one first, and the character
that has been begun. -/
structure Progress where
  done : List (Option Char)
  pending : Option Pending

/-- The bits of a byte that continues a character. -/
def continuationBits (byte : UInt8) : Nat :=
  byte.toNat - 0x80

/-- Reads the first byte of a character. -/
def begin (done : List (Option Char)) (byte : UInt8) : Progress :=
  if byte ≤ 0x7f then ⟨some (Char.ofNat byte.toNat) :: done, none⟩
  else if 0xc2 ≤ byte ∧ byte ≤ 0xdf then ⟨done, some ⟨byte.toNat - 0xc0, 1, 0x80, 0xbf⟩⟩
  else if 0xe0 ≤ byte ∧ byte ≤ 0xef then
    ⟨done, some ⟨byte.toNat - 0xe0, 2, if byte = 0xe0 then 0xa0 else 0x80,
      if byte = 0xed then 0x9f else 0xbf⟩⟩
  else if 0xf0 ≤ byte ∧ byte ≤ 0xf4 then
    ⟨done, some ⟨byte.toNat - 0xf0, 3, if byte = 0xf0 then 0x90 else 0x80,
      if byte = 0xf4 then 0x8f else 0xbf⟩⟩
  else ⟨none :: done, none⟩

/-- Reads one byte. -/
def step (p : Progress) (byte : UInt8) : Progress :=
  match p.pending with
  | none => begin p.done byte
  | some c =>
    if c.low ≤ byte ∧ byte ≤ c.high then
      let bits := 64 * c.bits + continuationBits byte
      if c.missing = 1 then ⟨some (Char.ofNat bits) :: p.done, none⟩
      else ⟨p.done, some ⟨bits, c.missing - 1, 0x80, 0xbf⟩⟩
    else begin (none :: p.done) byte

/-- Ends the text; a character that has been begun is malformed. -/
def finish (p : Progress) : List (Option Char) :=
  match p.pending with
  | none => p.done.reverse
  | some _ => (none :: p.done).reverse

/-- The characters of a text, with nothing in place of each malformed sequence. -/
def scan (bytes : List UInt8) : List (Option Char) :=
  finish (bytes.foldl step ⟨[], none⟩)

/-- The bytes are well formed. -/
def isWellFormed (bytes : List UInt8) : Bool :=
  (scan bytes).all Option.isSome

/-- The character that stands in place of a malformed sequence. -/
def replacement : Char := '\ufffd'

/-- The text of bytes, with the replacement character in place of each malformed sequence. -/
def decodeLossy (bytes : List UInt8) : String :=
  String.ofList ((scan bytes).map fun c => c.getD replacement)

end BeaconLight.Utf8

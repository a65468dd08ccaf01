import BeaconLight.Bytes
import BeaconLight.Ssz.Error

/-!
# Parts of an SSZ record

A record is a sequence of parts, each of fixed or of variable size. In its layout the fixed
parts stand in order, with a four-byte offset in place of each variable part, and the
variable parts follow in the same order. `assemble` writes the layout and `split` reads it.
-/

namespace BeaconLight.Ssz

/-- The number of bytes of an offset. -/
def offsetSize : Nat := 4

/-- One part of a record: the bytes, and whether their number is fixed. -/
structure Part where
  fixed : Bool
  bytes : List UInt8
  deriving DecidableEq, Repr

/-- The number of bytes that a part takes in front of the variable parts. -/
def Part.headSize (p : Part) : Nat :=
  if p.fixed then p.bytes.length else offsetSize

/-- The fixed parts in order, with an offset in place of each variable part; `offset` is
where the next variable part begins. -/
def heads (offset : Nat) : List Part → List UInt8
  | [] => []
  | p :: rest =>
    if p.fixed then p.bytes ++ heads offset rest
    else littleEndian offsetSize offset ++ heads (offset + p.bytes.length) rest

/-- The variable parts in order. -/
def tails : List Part → List UInt8
  | [] => []
  | p :: rest => if p.fixed then tails rest else p.bytes ++ tails rest

/-- The number of bytes that parts take in front of the variable parts. -/
def headsSize : List Part → Nat
  | [] => 0
  | p :: rest => p.headSize + headsSize rest

/-- The layout of a record. -/
def assemble (parts : List Part) : List UInt8 :=
  heads (headsSize parts) parts ++ tails parts

/-- What stands in place of a part in front of the variable parts. -/
inductive Head
  | inline (bytes : List UInt8)
  | offset (value : Nat)
  deriving DecidableEq, Repr

/-- Reads the heads of parts of the given sizes, `none` for a variable one. The input has
`length` bytes, of which those from `cursor` on are left. The last offset read, if any, is
`previous`. -/
def readHeads (length : Nat) :
  List (Option Nat) → (left : List UInt8) → (cursor : Nat) → (previous : Option Nat) →
  Except Error (List Head × Nat)
  | [], _, cursor, _ => .ok ([], cursor)
  | some size :: rest, left, cursor, previous =>
    if length < cursor + size then .error (.wrongLength length (cursor + size))
    else do
      let (others, last) ← readHeads length rest (left.drop size) (cursor + size) previous
      return (.inline (left.take size) :: others, last)
  | none :: rest, left, cursor, previous =>
    if length < cursor + offsetSize then .error (.shortOffset (length - cursor))
    else
      let offset := ofLittleEndian (left.take offsetSize)
      if length < offset then .error (.offsetBeyondInput offset)
      else if offset < previous.getD 0 then .error (.offsetBelowPrevious offset)
      else do
        let (others, last) ←
          readHeads length rest (left.drop offsetSize) (cursor + offsetSize) (some offset)
        return (.offset offset :: others, last)

/-- The first offset among heads. -/
def firstOffset : List Head → Option Nat
  | [] => none
  | .inline _ :: rest => firstOffset rest
  | .offset value :: _ => some value

/-- The bytes of each part: a variable one reaches to the next offset, and the last one to
the end of the input. -/
def slices (input : List UInt8) : List Head → List (List UInt8)
  | [] => []
  | .inline bytes :: rest => bytes :: slices input rest
  | .offset value :: rest =>
    match firstOffset rest with
    | some next => (input.drop value).take (next - value) :: slices input rest
    | none => input.drop value :: slices input rest

/-- The number of bytes of parts that are all of fixed size. -/
def totalSize? : List (Option Nat) → Option Nat
  | [] => some 0
  | some size :: rest => (totalSize? rest).map (size + ·)
  | none :: _ => none

/-- The bytes of each part of a record in its layout. -/
def split (sizes : List (Option Nat)) (input : List UInt8) :
  Except Error (List (List UInt8)) := do
  if let some total := totalSize? sizes then
    if input.length ≠ total then throw (.wrongLength input.length total)
  let (parts, cursor) ← readHeads input.length sizes input 0 none
  if let some first := firstOffset parts then
    if first < cursor then throw (.offsetInFixedPart first)
    if cursor < first then throw (.offsetAfterFixedPart first)
  return slices input parts

end BeaconLight.Ssz

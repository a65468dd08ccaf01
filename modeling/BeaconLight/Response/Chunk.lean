import BeaconLight.Bytes
import BeaconLight.Text.Digits

/-!
# Chunks of an SSZ body

An SSZ body with several records is a sequence of chunks. A chunk is a length of eight bytes,
least significant first, which counts what follows; a fork digest of four bytes; and the
payload. `encode` writes a chunk, and `split` takes a body apart into its chunks.
-/

namespace BeaconLight

/-- A chunk of an SSZ body. -/
structure Chunk where
  digest : Bytes 4
  payload : List UInt8
  deriving DecidableEq, Repr

namespace Chunk

/-- The number of bytes of a fork digest. -/
def digestSize : Nat := 4

/-- The number of bytes of the length of a chunk. -/
def lengthSize : Nat := 8

/-- The bytes of a chunk. -/
def encode (chunk : Chunk) : List UInt8 :=
  littleEndian lengthSize (digestSize + chunk.payload.length)
    ++ chunk.digest.val ++ chunk.payload

/-- Why bytes are not a sequence of chunks: what is wrong with the chunk of an index. -/
inductive Error
  /-- There are too few bytes for a length. -/
  | noLength (index left : Nat)
  /-- The length is less than that of a digest or more than what is left. -/
  | badLength (index length left : Nat)
  deriving DecidableEq, Repr

/-- The start of a message about the chunk of an index. -/
def label (index : Nat) : String :=
  "chunk " ++ Text.decimal index ++ ": "

/-- The wording of a framing error. -/
def Error.message : Error → String
  | .noLength index left =>
    label index ++ Text.decimal left ++ " bytes left, expected a chunk length"
  | .badLength index length left =>
    label index ++ "chunk length " ++ Text.decimal length ++ " out of bounds, "
      ++ Text.decimal left ++ " bytes left"

/-- Takes bytes apart into chunks, the first of which has a given index. -/
def splitFrom (index : Nat) (bytes : List UInt8) : Except Error (List Chunk) :=
  if bytes = [] then .ok []
  else
    let rest := bytes.drop lengthSize
    let length := ofLittleEndian (bytes.take lengthSize)
    if bytes.length < lengthSize then .error (.noLength index bytes.length)
    else if h : digestSize ≤ length ∧ length ≤ rest.length then
      let framed := rest.take length
      have hdigest : (framed.take digestSize).length = digestSize := by
        simp only [framed, List.length_take, digestSize] at *
        omega
      (splitFrom (index + 1) (rest.drop length)).map
        (⟨⟨framed.take digestSize, hdigest⟩, framed.drop digestSize⟩ :: ·)
    else .error (.badLength index length rest.length)
termination_by bytes.length
decreasing_by
  simp only [List.length_drop, lengthSize, digestSize] at *
  omega

/-- Takes a body apart into its chunks. -/
def split (bytes : List UInt8) : Except Error (List Chunk) :=
  splitFrom 0 bytes

end Chunk

end BeaconLight

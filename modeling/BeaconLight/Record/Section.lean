import BeaconLight.Bytes
import BeaconLight.Hex
import BeaconLight.Json.Basic
import BeaconLight.Record.Error

/-!
# Sections of a JSON document

A `Section` is an object of a document with the path that leads to it. Its accessors read a
member as a number, as bytes, as a list of byte strings or as an object again, and an error
of theirs names the member by its path. A member that is `null` counts as absent.
-/

namespace BeaconLight

/-- An object of a document and the path that leads to it, empty for the root. -/
structure Section where
  path : String
  members : Json.Members

namespace Section

/-- The path of a member of the object at a path. -/
def join (path name : String) : String :=
  if path = "" then name else path ++ "." ++ name

/-- The path of an element of the list at a path. -/
def element (path : String) (index : Nat) : String :=
  path ++ "[" ++ Text.decimal index ++ "]"

/-- How the root of a document is named. -/
def root : String := "<root>"

/-- The object at a path. -/
def ofJson (value : Json) (path : String) : Except RecordError Section :=
  match value with
  | .object members => .ok ⟨path, members⟩
  | _ => .error (.wrongType (if path = "" then root else path) "an object")

/-- The path of a member. -/
def pathOf (s : Section) (name : String) : String :=
  join s.path name

/-- A member that has to be there. -/
def required (s : Section) (name : String) : Except RecordError Json :=
  match Json.find? name s.members with
  | none | some .null => .error (.missing (s.pathOf name))
  | some value => .ok value

/-- The number below `2 ^ bits` that the value at a path spells in decimal digits. -/
def readNumber (bits : Nat) (value : Json) (path : String) :
  Except RecordError (BitVec bits) :=
  match value with
  | .string text =>
    match Text.ofDecimal? text with
    | none => .error (.badNumber path (Text.quoted text ++ " is not an unsigned decimal integer"))
    | some n =>
      if n < Nat.pow 2 bits then .ok (BitVec.ofNat bits n) else .error (.badNumber path tooLarge)
  | _ => .error (.badNumber path "expected a decimal string")
where
  tooLarge : String :=
    if bits ≤ 64 then "number too large to fit in target type"
    else "the value is too large to fit the target type"

/-- The bytes that the value at a path spells in hexadecimal. -/
def readBytes (value : Json) (path : String) : Except RecordError (List UInt8) :=
  match value with
  | .string text =>
    match Hex.decode text with
    | .ok bytes => .ok bytes
    | .error e => .error (.badHex path e.message)
  | _ => .error (.badHex path "expected a hex string")

/-- The `n` bytes that the value at a path spells in hexadecimal. -/
def readFixed (n : Nat) (value : Json) (path : String) : Except RecordError (Bytes n) := do
  let bytes ← readBytes value path
  match Sized.ofList? n bytes with
  | some sized => return sized
  | none => throw (.wrongLength path)

/-- An element of a list of byte strings; `null` and the empty text count as missing. -/
def readElement (n : Nat) (value : Json) (path : String) : Except RecordError (Bytes n) :=
  match value with
  | .null | .string "" => .error (.missing path)
  | _ => readFixed n value path

/-- The elements of a list from an index on. -/
def readElements (n : Nat) (path : String) : Nat → List Json → Except RecordError (List (Bytes n))
  | _, [] => .ok []
  | index, value :: rest => do
    let bytes ← readElement n value (element path index)
    let others ← readElements n path (index + 1) rest
    return bytes :: others

/-- A member as a number below `2 ^ bits`. -/
def number (s : Section) (name : String) (bits : Nat) : Except RecordError (BitVec bits) := do
  readNumber bits (← s.required name) (s.pathOf name)

/-- A member as `n` bytes. -/
def fixedBytes (s : Section) (name : String) (n : Nat) : Except RecordError (Bytes n) := do
  readFixed n (← s.required name) (s.pathOf name)

/-- A member as at most `limit` bytes. -/
def byteList (s : Section) (name : String) (limit : Nat) :
  Except RecordError { bytes : List UInt8 // bytes.length ≤ limit } := do
  let bytes ← readBytes (← s.required name) (s.pathOf name)
  if h : bytes.length ≤ limit then return ⟨bytes, h⟩ else throw (.wrongLength (s.pathOf name))

/-- A member as a list of `count` strings of `n` bytes each. The elements are read before
they are counted. -/
def byteVectors (s : Section) (name : String) (count n : Nat) :
  Except RecordError (Sized (Bytes n) count) := do
  match ← s.required name with
  | .array [] => throw (.empty (s.pathOf name))
  | .array items =>
    let elements ← readElements n (s.pathOf name) 0 items
    match Sized.ofList? count elements with
    | some sized => return sized
    | none => throw (.wrongCount (s.pathOf name) count elements.length)
  | _ => throw (.wrongType (s.pathOf name) "an array")

/-- A member as an object. -/
def child (s : Section) (name : String) : Except RecordError Section := do
  ofJson (← s.required name) (s.pathOf name)

end Section

end BeaconLight

import BeaconLight.Json.Parser
import BeaconLight.Text.Quoted

/-!
# Reading JSON text as typed data

A `Reader` takes the outline of a value to data of some type, or says why it is not of that
type. Outlines are read in the order of the text, so of two things that are wrong the first
is reported, and a fault in the text counts from where it stands.

A record is read from an object by the names of its fields, in any order and with further
members passed over, or from an array of its fields in order. Fields with a default may be
absent. `FieldReaders` lists the fields of a record, and `record` reads it.
-/

namespace BeaconLight.Json

/-- What stands in the text in place of something else. -/
inductive Found
  | null
  | bool (value : Bool)
  | number (value : Number)
  | string (value : String)
  | sequence
  | map
  deriving DecidableEq, Repr

/-- Why a text cannot be read as typed data. -/
inductive ReadError
  /-- The text is not JSON. -/
  | malformed
  /-- A value has another type than it should. -/
  | wrongType (found : Found) (expected : String)
  /-- A value has the right type and is out of range. -/
  | wrongValue (found : Found) (expected : String)
  /-- An array has fewer items than a record has fields. -/
  | wrongLength (count : Nat) (expected : String)
  | missingField (name : String)
  | duplicateField (name : String)
  /-- A text is none of the words that it may be. -/
  | unknownWord (word : String) (known : List String)
  /-- A text does not spell an integer. -/
  | notInteger (cause : Text.IntegerError)
  deriving DecidableEq, Repr

/-- How a value shows in an error. -/
def Found.describe : Found → String
  | .null => "null"
  | .bool true => "boolean `true`"
  | .bool false => "boolean `false`"
  | .number (.double bits) =>
    "floating point `" ++ String.ofList (Literal.ofDouble bits).spell ++ "`"
  | .number n => "integer `" ++ String.ofList n.literal.spell ++ "`"
  | .string text => "string " ++ Text.quoted text
  | .sequence => "sequence"
  | .map => "map"

/-- The words that a text may be, in an error. -/
def describeWords : List String → String
  | [] => "there are no variants"
  | [only] => "expected `" ++ only ++ "`"
  | [one, other] => "expected `" ++ one ++ "` or `" ++ other ++ "`"
  | words => "expected one of " ++ String.intercalate ", " (words.map fun w => "`" ++ w ++ "`")

/-- The wording of a read error. -/
def ReadError.message : ReadError → String
  | .malformed => "malformed JSON"
  | .wrongType found expected => "invalid type: " ++ found.describe ++ ", expected " ++ expected
  | .wrongValue found expected => "invalid value: " ++ found.describe ++ ", expected " ++ expected
  | .wrongLength count expected =>
    "invalid length " ++ Text.decimal count ++ ", expected " ++ expected
  | .missingField name => "missing field `" ++ name ++ "`"
  | .duplicateField name => "duplicate field `" ++ name ++ "`"
  | .unknownWord word known => "unknown variant `" ++ word ++ "`, " ++ describeWords known
  | .notInteger cause => cause.message

/-- Reads data of a type from the outline of a value. -/
abbrev Reader (α : Type) : Type := Outline → Except ReadError α

mutual

/-- An outline without a fault. What its strings and numbers mean is not looked at. -/
def Outline.isWhole : Outline → Bool
  | .fault => false
  | .null | .bool _ | .number _ | .string _ => true
  | .array items closed => areWhole items && closed
  | .object members closed => membersAreWhole members && closed

/-- Items without a fault. -/
def areWhole : List Outline → Bool
  | [] => true
  | item :: rest => item.isWhole && areWhole rest

/-- Members without a fault. -/
def membersAreWhole : List (List UInt8 × Outline) → Bool
  | [] => true
  | (_, item) :: rest => item.isWhole && membersAreWhole rest

end

namespace Reader

/-- The text of a string token. -/
def readRaw (raw : List UInt8) : Except ReadError String :=
  match readString raw with
  | some text => .ok text
  | none => .error .malformed

/-- What an outline shows as in an error about its type. -/
def found : Outline → Except ReadError Found
  | .fault => .error .malformed
  | .null => .ok .null
  | .bool value => .ok (.bool value)
  | .number literal =>
    match literal.value? with
    | some value => .ok (.number value)
    | none => .error .malformed
  | .string raw => (readRaw raw).map .string
  | .array .. => .ok .sequence
  | .object .. => .ok .map

/-- Refuses an outline for its type. -/
def refuse {α : Type} (expected : String) (o : Outline) : Except ReadError α := do
  throw (.wrongType (← found o) expected)

/-- Passes a value over. -/
def ignore : Reader Unit := fun o =>
  if o.isWhole then .ok () else .error .malformed

/-- Reads a value of any type, nested at most `depth` deep. -/
def value (depth : Nat) : Reader Json := fun o =>
  match o.value? depth with
  | some v => .ok v
  | none => .error .malformed

/-- Reads a string. -/
def text : Reader String
  | .string raw => readRaw raw
  | o => refuse "a string" o

/-- Reads a natural number of 64 bits. -/
def word : Reader Nat
  | .number literal =>
    match literal.value? with
    | none => .error .malformed
    | some (.natural n) => .ok n
    | some (.negative n) => .error (.wrongValue (.number (.negative n)) "u64")
    | some (.double bits) => .error (.wrongType (.number (.double bits)) "u64")
  | o => refuse "u64" o

/-- Reads a natural number of 64 bits that a string spells. -/
def wordText : Reader Nat := fun o => do
  match Text.unsigned? wordLimit (← text o) with
  | .ok n => return n
  | .error e => throw (.notInteger e)

/-- Looks a word up among those it may be. -/
def lookWord {α : Type} (words : List (String × α)) (word : String) : Except ReadError α :=
  match words.lookup word with
  | some value => .ok value
  | none => .error (.unknownWord word (words.map Prod.fst))

/-- Reads one of some words: a string, or an object with the word as its only name and `null`
as the value. Other values are taken for faults. -/
def choice {α : Type} (words : List (String × α)) : Reader α
  | .string raw => do lookWord words (← readRaw raw)
  | .object ((raw, content) :: rest) closed => do
    let value ← lookWord words (← readRaw raw)
    match content with
    | .null => pure ()
    | o => refuse "unit" o
    if rest.isEmpty && closed then return value else throw .malformed
  | _ => .error .malformed

/-- Reads the items of an array in order. -/
def items {α : Type} (read : Reader α) : List Outline → Except ReadError (List α)
  | [] => .ok []
  | item :: rest => do
    let first ← read item
    let others ← items read rest
    return first :: others

/-- Reads an array. -/
def list {α : Type} (read : Reader α) : Reader (List α)
  | .array outlines closed => do
    let values ← items read outlines
    if closed then return values else throw .malformed
  | o => refuse "a sequence" o

end Reader

/-- A field of a record: its name, other names it goes by, how it is read, and the value it
has when it is absent, if it may be. -/
structure FieldReader (α : Type) where
  name : String
  aliases : List String
  read : Reader α
  default : Option α

/-- A field that has to be there. -/
def FieldReader.required {α : Type} (name : String) (read : Reader α) : FieldReader α :=
  ⟨name, [], read, none⟩

/-- A field with a default. -/
def FieldReader.optional {α : Type} (name : String) (read : Reader α) (default : α) :
  FieldReader α :=
  ⟨name, [], read, some default⟩

/-- The fields of a record, in order. Their values together have type `τ`, and the values of
those that have been read so far type `σ`. -/
inductive FieldReaders : (τ σ : Type) → Type 1
  | nil : FieldReaders Unit Unit
  | cons {α τ σ : Type} (field : FieldReader α) (rest : FieldReaders τ σ) :
    FieldReaders (α × τ) (Option α × σ)

namespace FieldReaders

/-- No field has been read. -/
def unread : {τ σ : Type} → FieldReaders τ σ → σ
  | _, _, .nil => ()
  | _, _, .cons _ rest => (none, rest.unread)

/-- Reads a member: as the field it names, which it may name once, or as nothing. -/
def readMember (name : String) (o : Outline) :
  {τ σ : Type} → FieldReaders τ σ → σ → Except ReadError σ
  | _, _, .nil, () => Reader.ignore o
  | _, _, .cons field rest, (slot, slots) =>
    if name = field.name ∨ name ∈ field.aliases then
      match slot with
      | some _ => .error (.duplicateField field.name)
      | none => do
        let value ← field.read o
        return (some value, slots)
    else do
      let slots ← rest.readMember name o slots
      return (slot, slots)

/-- Reads members in the order of the text. -/
def readMembers {τ σ : Type} (fields : FieldReaders τ σ) :
  List (List UInt8 × Outline) → σ → Except ReadError σ
  | [], slots => .ok slots
  | (raw, o) :: rest, slots => do
    let name ← Reader.readRaw raw
    let slots ← fields.readMember name o slots
    fields.readMembers rest slots

/-- The fields of an object that has been read, with defaults for those that are absent. -/
def complete : {τ σ : Type} → FieldReaders τ σ → σ → Except ReadError τ
  | _, _, .nil, () => .ok ()
  | _, _, .cons field rest, (slot, slots) => do
    let value ←
      match slot, field.default with
      | some value, _ => pure value
      | none, some value => pure value
      | none, none => throw (.missingField field.name)
    let values ← rest.complete slots
    return (value, values)

/-- Reads fields from the items of an array; `count` have been read, and the array is
`closed`. -/
def readItems (expected : String) (closed : Bool) :
  {τ σ : Type} → FieldReaders τ σ → (count : Nat) → List Outline → Except ReadError τ
  | _, _, .nil, _, [] => if closed then .ok () else .error .malformed
  | _, _, .nil, _, _ :: _ => .error .malformed
  | _, _, .cons field rest, count, o :: items => do
    let value ← field.read o
    let values ← rest.readItems expected closed (count + 1) items
    return (value, values)
  | _, _, .cons field rest, count, [] => do
    if !closed then throw .malformed
    match field.default with
    | none => throw (.wrongLength count expected)
    | some value =>
      let values ← rest.readItems expected closed (count + 1) []
      return (value, values)

/-- The number of fields. -/
def size : {τ σ : Type} → FieldReaders τ σ → Nat
  | _, _, .nil => 0
  | _, _, .cons _ rest => rest.size + 1

end FieldReaders

namespace Reader

/-- Reads a record from an object or an array. -/
def record {τ σ : Type} (name : String) (fields : FieldReaders τ σ) : Reader τ
  | .object members closed => do
    let slots ← fields.readMembers members fields.unread
    if closed then fields.complete slots else throw .malformed
  | .array items closed =>
    let plural := if fields.size = 1 then " element" else " elements"
    fields.readItems ("struct " ++ name ++ " with " ++ Text.decimal fields.size ++ plural)
      closed 0 items
  | o => refuse ("struct " ++ name) o

end Reader

/-- Reads a whole text. -/
def Reader.run {α : Type} (read : Reader α) (bytes : List UInt8) : Except ReadError α := do
  let (o, trailing) := outline bytes
  let value ← read o
  if trailing then throw .malformed
  return value

end BeaconLight.Json

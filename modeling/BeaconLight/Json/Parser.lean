import BeaconLight.Json.Outline

/-!
# Reading JSON text

`Json.parse?` reads a text that is one JSON value and nothing else but blanks. It refuses a
string that is not UTF-8 or has half of a surrogate pair, a number out of the range of
doubles, and arrays and objects nested more than 127 deep.
-/

namespace BeaconLight.Json

/-- Arrays and objects may be nested this deep. -/
def maxDepth : Nat := 127

mutual

/-- The value of an outline without a fault, its arrays and objects nested at most `depth`
deep. -/
def Outline.value? (depth : Nat) : Outline → Option Json
  | .fault => none
  | .null => some .null
  | .bool value => some (.bool value)
  | .number literal => literal.value?.map .number
  | .string raw => (readString raw).map .string
  | .array items closed =>
    match depth, closed with
    | depth + 1, true => (itemValues? depth items).map .array
    | _, _ => none
  | .object members closed =>
    match depth, closed with
    | depth + 1, true => (memberValues? depth members).map .object
    | _, _ => none

/-- The values of outlines. -/
def itemValues? (depth : Nat) : List Outline → Option (List Json)
  | [] => some []
  | item :: rest => do
    let value ← item.value? depth
    let values ← itemValues? depth rest
    return value :: values

/-- The names and values of members. -/
def memberValues? (depth : Nat) : List (List UInt8 × Outline) → Option (List (String × Json))
  | [] => some []
  | (raw, item) :: rest => do
    let name ← readString raw
    let value ← item.value? depth
    let members ← memberValues? depth rest
    return (name, value) :: members

end

/-- The value of a JSON text. -/
def parse? (bytes : List UInt8) : Option Json :=
  match outline bytes with
  | (value, false) => value.value? maxDepth
  | (_, true) => none

end BeaconLight.Json

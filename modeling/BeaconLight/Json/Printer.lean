import BeaconLight.Json.Basic
import BeaconLight.Text.Utf8

/-!
# Writing JSON text

`Json.render` writes a value without blanks and with the members of each object in the order
they have. In a string a quote, a backslash and the controls are escaped, and all other
characters stand as they are. `Json.encode` is the same text as UTF-8.
-/

namespace BeaconLight

namespace Json

/-- A lower-case hexadecimal digit. -/
def hexDigit (n : Nat) : Char :=
  if n < 10 then Char.ofNat ('0'.toNat + n) else Char.ofNat ('a'.toNat + (n - 10))

/-- A character as it stands in a string. -/
def escapeChar (c : Char) : List Char :=
  if c = '"' then ['\\', '"']
  else if c = '\\' then ['\\', '\\']
  else if c = '\x08' then ['\\', 'b']
  else if c = '\x0c' then ['\\', 'f']
  else if c = '\n' then ['\\', 'n']
  else if c = '\r' then ['\\', 'r']
  else if c = '\t' then ['\\', 't']
  else if c.toNat < 0x20 then
    ['\\', 'u', '0', '0', hexDigit (c.toNat / 16), hexDigit (c.toNat % 16)]
  else [c]

/-- A text between quotes. -/
def stringChars (text : String) : List Char :=
  '"' :: (text.toList.flatMap escapeChar ++ ['"'])

mutual

/-- The characters of a value. -/
def chars : Json → List Char
  | .null => ['n', 'u', 'l', 'l']
  | .bool true => ['t', 'r', 'u', 'e']
  | .bool false => ['f', 'a', 'l', 's', 'e']
  | .number n => n.literal.spell
  | .string text => stringChars text
  | .array items => '[' :: (itemChars items ++ [']'])
  | .object members => '\x7b' :: (memberChars members ++ ['\x7d'])

/-- The characters of the items of an array, with commas between them. -/
def itemChars : List Json → List Char
  | [] => []
  | item :: rest => chars item ++ restItemChars rest

/-- The characters of further items, each after a comma. -/
def restItemChars : List Json → List Char
  | [] => []
  | item :: rest => ',' :: (chars item ++ restItemChars rest)

/-- The characters of the members of an object, with commas between them. -/
def memberChars : List (String × Json) → List Char
  | [] => []
  | (name, value) :: rest =>
    stringChars name ++ ':' :: (chars value ++ restMemberChars rest)

/-- The characters of further members, each after a comma. -/
def restMemberChars : List (String × Json) → List Char
  | [] => []
  | (name, value) :: rest =>
    ',' :: (stringChars name ++ ':' :: (chars value ++ restMemberChars rest))

end

/-- The text of a value. -/
def render (value : Json) : String :=
  String.ofList (chars value)

/-- The text of a value as UTF-8. -/
def encode (value : Json) : List UInt8 :=
  Utf8.encode (chars value)

end Json

end BeaconLight

import BeaconLight.Chain.Fork
import BeaconLight.Json.Fault

/-!
# Errors of record decoding

A `RecordError` says what is wrong with the encoding of a record. An error about one field
names it by its path: the names of the enclosing objects and its own with dots between them,
and the index of a list element in brackets.
-/

namespace BeaconLight

/-- What is wrong with the encoding of a record. -/
inductive RecordError
  /-- A field is absent or `null`, or a list element `null` or empty. -/
  | missing (field : String)
  /-- A list has no elements. -/
  | empty (field : String)
  /-- A field has another number of bytes than it should. -/
  | wrongLength (field : String)
  /-- A list has another number of elements than it should. -/
  | wrongCount (field : String) (expected actual : Nat)
  /-- A field is not hexadecimal text. -/
  | badHex (field reason : String)
  /-- A field is not the decimal text of an integer in range. -/
  | badNumber (field reason : String)
  /-- A field has another JSON type than it should. -/
  | wrongType (field expected : String)
  /-- The text is not JSON. -/
  | malformed (fault : Json.Fault)
  /-- The bytes do not have the layout of the record. -/
  | badLayout (record reason : String)
  /-- The fork carries no light client data. -/
  | unsupportedFork (fork : Fork)
  /-- The text names no fork. -/
  | unknownFork (text : String)
  deriving DecidableEq, Repr

/-- What an error is about, apart from where it is. -/
inductive RecordError.Kind
  | missing
  | empty
  | format
  | number
  | json
  | layout
  | version
  deriving DecidableEq, Repr

namespace RecordError

/-- The kind of an error. -/
def kind : RecordError → Kind
  | .missing _ => .missing
  | .empty _ => .empty
  | .wrongLength _ | .wrongCount .. | .badHex .. => .format
  | .badNumber .. => .number
  | .wrongType .. | .malformed _ => .json
  | .badLayout .. => .layout
  | .unsupportedFork _ | .unknownFork _ => .version

/-- The wording of an error. -/
def message : RecordError → String
  | .missing field => field ++ " missing"
  | .empty field => field ++ " length cannot be 0"
  | .wrongLength field => "invalid length of " ++ field
  | .wrongCount field expected actual =>
    "invalid length of " ++ field ++ ": expected " ++ Text.decimal expected
      ++ " elements, got " ++ Text.decimal actual
  | .badHex field reason | .badNumber field reason =>
    "invalid value for " ++ field ++ ": " ++ reason
  | .wrongType field expected => "invalid value for " ++ field ++ ": expected " ++ expected
  | .malformed fault => "invalid JSON: " ++ fault.message
  | .badLayout record reason => "invalid SSZ for " ++ record ++ ": " ++ reason
  | .unsupportedFork fork =>
    "unsupported version " ++ fork.name
      ++ ": light client data is not available before altair"
  | .unknownFork text => "unknown consensus version '" ++ text ++ "'"

/-- The path of the field that an error is about, for errors about one field. -/
def field? : RecordError → Option String
  | .missing field | .empty field | .wrongLength field | .wrongCount field _ _
  | .badHex field _ | .badNumber field _ | .wrongType field _ => some field
  | .malformed _ | .badLayout .. | .unsupportedFork _ | .unknownFork _ => none

/-- The error with the path of its field changed, if it is about one field. -/
def mapField (f : String → String) : RecordError → RecordError
  | .missing field => .missing (f field)
  | .empty field => .empty (f field)
  | .wrongLength field => .wrongLength (f field)
  | .wrongCount field expected actual => .wrongCount (f field) expected actual
  | .badHex field reason => .badHex (f field) reason
  | .badNumber field reason => .badNumber (f field) reason
  | .wrongType field expected => .wrongType (f field) expected
  | .malformed fault => .malformed fault
  | .badLayout record reason => .badLayout record reason
  | .unsupportedFork fork => .unsupportedFork fork
  | .unknownFork text => .unknownFork text

end RecordError

end BeaconLight

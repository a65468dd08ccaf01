import BeaconLight.Json.Basic
import BeaconLight.Text.Blank

/-!
# Responses before they are decoded

A `RawResponse` is what a successful response says about its data, and the body. It is
collected from the headers one at a time by `insertHeader`, and `destination` tells where the
value of a header goes: the fork is kept apart, and other headers of the same family become
metadata under the name that they would have in a JSON body.
-/

namespace BeaconLight

/-- A successful response before its body is decoded. The metadata are sorted by name. -/
structure RawResponse where
  contentType : Option String
  consensusVersion : Option String
  metadata : Json.Members
  body : List UInt8
  deriving Repr

namespace RawResponse

/-- A response with no headers and no body. -/
def empty : RawResponse :=
  ⟨none, none, [], []⟩

/-- Where the value of a header goes. -/
inductive Destination
  /-- It names the fork of the data. -/
  | version
  /-- It is metadata. -/
  | metadata (key : String)
  /-- It is not kept. -/
  | nowhere
  deriving DecidableEq, Repr

/-- The header that names the fork of the data. -/
def versionHeader : String := "eth-consensus-version"

/-- The key of the metadata that a header in lower case holds: its name without `eth-` and
with underscores for hyphens. -/
def metadataKey? (name : String) : Option String :=
  match name.toList with
  | 'e' :: 't' :: 'h' :: '-' :: rest =>
    some (String.ofList (rest.map fun c => if c = '-' then '_' else c))
  | _ => none

/-- Where the value of a header of a name goes, whatever the case of its letters. -/
def destination (name : String) : Destination :=
  if Text.lower name = versionHeader then .version
  else
    match metadataKey? (Text.lower name) with
    | some key => .metadata key
    | none => .nowhere

/-- The value of a header as metadata: `true` and `false` are truth values, and all else is
text. -/
def metadataValue (value : String) : Json :=
  if value = "true" then .bool true
  else if value = "false" then .bool false
  else .string value

/-- Adds a header. Of several with one destination the last counts. -/
def insertHeader (raw : RawResponse) (name value : String) : RawResponse :=
  match destination name with
  | .version => { raw with consensusVersion := some value }
  | .metadata key =>
    { raw with metadata := Json.insert key (metadataValue value) raw.metadata }
  | .nowhere => raw

/-- Adds headers in order. -/
def insertHeaders (raw : RawResponse) (headers : List (String × String)) : RawResponse :=
  headers.foldl (fun raw header => raw.insertHeader header.1 header.2) raw

end RawResponse

end BeaconLight

import BeaconLight.Json.Printer
import BeaconLight.Json.Reader

/-!
# Responses

A `Response` is data and the metadata that came with it. As JSON it is an object with the
data under `data` and the metadata as its other members.
-/

namespace BeaconLight

/-- The data of a response and what the node said about it, sorted by name. -/
structure Response (α : Type) where
  data : α
  metadata : Json.Members
  deriving Repr

namespace Response

variable {α β : Type}

/-- The member that holds the data. -/
def dataField : String := "data"

/-- The member that names the fork of the data. -/
def versionField : String := "version"

/-- The response with its data changed. -/
def map (f : α → β) (r : Response α) : Response β :=
  ⟨f r.data, r.metadata⟩

/-- Reads the members of a response in the order of the text: the data once, and what else
there is as metadata, last one first. -/
def readMembers (read : Json.Reader α) :
  List (List UInt8 × Json.Outline) → Option α → Json.Members →
    Except Json.ReadError (Option α × Json.Members)
  | [], data, others => .ok (data, others)
  | (raw, o) :: rest, data, others => do
    let name ← Json.Reader.readRaw raw
    if name = dataField then
      if data.isSome then throw (.duplicateField dataField)
      let value ← read o
      readMembers read rest (some value) others
    else
      let value ← Json.Reader.value (Json.maxDepth - 1) o
      readMembers read rest data ((name, value.canonical) :: others)

/-- Reads a response. -/
def reader (read : Json.Reader α) : Json.Reader (Response α)
  | .object members closed => do
    let (data, others) ← readMembers read members none []
    if !closed then throw .malformed
    match data with
    | some value => return ⟨value, Json.sorted others.reverse⟩
    | none => throw (.missingField dataField)
  | o => Json.Reader.refuse "struct Response" o

/-- A response as JSON. -/
def toJson (write : α → Json) (r : Response α) : Json :=
  .object ((dataField, write r.data) :: r.metadata)

end Response

end BeaconLight

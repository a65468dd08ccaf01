import BeaconLight.Record.Versioned
import BeaconLight.Response.Chunk
import BeaconLight.Response.Encoding
import BeaconLight.Response.Envelope
import BeaconLight.Response.Error
import BeaconLight.Response.Raw

/-!
# Content negotiation

A response is decoded in a fixed order, and each step decides before anything later is looked
at: the fork that the header names, the content type, the JSON document, the fork that the
document names, and last the records. `negotiate` takes all steps but the last.

The header outranks the document, and the fork of the response is the fork of each of its
records. The first fork carries no light client data and is refused wherever it is named.
-/

namespace BeaconLight

/-- The encoding that a `Content-Type` header names, whatever its parameters. A response
without the header is JSON. -/
def Encoding.ofContentType : Option String → Except ResponseError Encoding
  | none => .ok .json
  | some value =>
    let mediaType := Text.trim (Text.before ';' value)
    if Text.equalsIgnoringCase mediaType sszType then .ok .ssz
    else if Text.equalsIgnoringCase mediaType jsonType then .ok .json
    else .error (.unhandledType value)

/-- The fork that a text names, if it carries light client data. -/
def LightFork.ofText (text : String) : Except ResponseError LightFork :=
  match Fork.parse? text with
  | none => .error (.unknownFork text)
  | some fork =>
    match fork.light? with
    | none => .error (.unsupportedFork fork)
    | some light => .ok light

/-- The body of a response in the encoding it is in. -/
inductive Content
  | ssz (bytes : List UInt8)
  | json (members : Json.Members)

/-- The fork that a body names. -/
def Content.fork : Content → Except ResponseError LightFork
  | .ssz _ => .error .noFork
  | .json members =>
    match Json.find? Response.versionField members with
    | some (.string text) => LightFork.ofText text
    | _ => .error .noFork

namespace RawResponse

/-- The fork that the header names, if there is one. -/
def claimedFork (raw : RawResponse) : Except ResponseError (Option LightFork) :=
  match raw.consensusVersion with
  | none => .ok none
  | some text => (LightFork.ofText text).map some

/-- The body in the encoding that the content type names. -/
def content (raw : RawResponse) : Except ResponseError Content := do
  match ← Encoding.ofContentType raw.contentType with
  | .ssz => return .ssz raw.body
  | .json =>
    match Json.parse raw.body with
    | .error fault => throw (.badRecord (.malformed fault))
    | .ok (.object members) => return .json members
    | .ok _ => throw (.badRecord (.wrongType Section.root "an object"))

/-- The fork of a response and its body. -/
def negotiate (raw : RawResponse) : Except ResponseError (LightFork × Content) := do
  let claimed ← raw.claimedFork
  let content ← raw.content
  match claimed with
  | some fork => return (fork, content)
  | none => return (← content.fork, content)

/-- The data in the members of a JSON body. -/
def takeData (members : Json.Members) : Except ResponseError Json :=
  match Json.find? Response.dataField members with
  | none | some .null => .error (.badRecord (.missing Response.dataField))
  | some value => .ok value

/-- The metadata in the members of a JSON body. -/
def otherMembers (members : Json.Members) : Json.Members :=
  Json.sorted (Json.canonicalMembers (Json.erase Response.dataField members))

/-- A response of a fork, which its metadata name. -/
def respond {α : Type} (fork : LightFork) (data : α) (metadata : Json.Members) : Response α :=
  ⟨data, Json.insert Response.versionField (.string fork.name) metadata⟩

/-- Takes the error of a record for one of the response. -/
def liftRecord {α : Type} (r : Except RecordError α) : Except ResponseError α :=
  r.mapError .badRecord

/-- Decodes a response with one record. -/
def decodeRecord (kind : Kind) (raw : RawResponse) :
  Except ResponseError (Response (Versioned kind)) := do
  let (fork, content) ← raw.negotiate
  match content with
  | .ssz bytes =>
    let record ← liftRecord (Versioned.ofSsz kind fork.toFork bytes)
    return respond fork record raw.metadata
  | .json members =>
    let data ← takeData members
    let record ← liftRecord (Versioned.ofJson kind fork.toFork data Response.dataField)
    return respond fork record (otherMembers members)

/-- Decodes the elements of a list from an index on. -/
def readElements (fork : LightFork) : Nat → List Json →
  Except RecordError (List (Versioned .update))
  | _, [] => .ok []
  | index, value :: rest => do
    let record ←
      Versioned.ofJson .update fork.toFork value (Section.element Response.dataField index)
    let others ← readElements fork (index + 1) rest
    return record :: others

/-- Names the chunk of an index in the error of its payload. -/
def labelChunk (index : Nat) : RecordError → RecordError
  | .badLayout record reason => .badLayout record (Chunk.label index ++ reason)
  | e => e

/-- Decodes the payloads of chunks from an index on. -/
def readChunks (fork : LightFork) : Nat → List Chunk →
  Except RecordError (List (Versioned .update))
  | _, [] => .ok []
  | index, chunk :: rest => do
    let record ←
      (Versioned.ofSsz .update fork.toFork chunk.payload).mapError (labelChunk index)
    let others ← readChunks fork (index + 1) rest
    return record :: others

/-- Decodes a response with a list of updates. An SSZ body is taken apart before any of its
payloads is decoded, and one malformed update fails the response. -/
def decodeUpdates (raw : RawResponse) :
  Except ResponseError (Response (List (Versioned .update))) := do
  let (fork, content) ← raw.negotiate
  match content with
  | .ssz bytes =>
    let chunks ←
      liftRecord ((Chunk.split bytes).mapError fun e => .badLayout Kind.update.name e.message)
    let records ← liftRecord (readChunks fork 0 chunks)
    return respond fork records raw.metadata
  | .json members =>
    match ← takeData members with
    | .array items =>
      let records ← liftRecord (readElements fork 0 items)
      return respond fork records (otherMembers members)
    | _ => throw (.badRecord (.wrongType Response.dataField "an array"))

end RawResponse

end BeaconLight

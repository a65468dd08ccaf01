import BeaconLight.Node.Attempt
import BeaconLight.Node.Request
import BeaconLight.Response.Negotiation
import BeaconLight.Url.Basic

/-!
# Asking a node

A `Node` is the base of the URLs of a node and the encoding that is asked for. `Node.attempt`
makes a request of it over a `Transport`, which is all that is known of the network.

`Request.read` reads a reply. Only the status of success carries data. A reply that something
was not found means that there is nothing yet, where an operation allows that, and every
other status is an outage.
-/

namespace BeaconLight

/-- What is sent to a node: the URL to get and the encoding that is asked for. -/
structure Get where
  url : WebUrl
  accept : Encoding
  deriving DecidableEq, Repr

/-- The network, as how getting something over it goes. -/
abbrev Transport : Type := Get → Attempt Reply

namespace Request

/-- Refuses more updates than were asked for. -/
def limit (count : Nat) (r : Response (List (Versioned .update))) :
  Except ResponseError (Response (List (Versioned .update))) :=
  if r.data.length ≤ count then .ok r
  else .error (.tooManyUpdates count r.data.length)

/-- Decodes a successful response to a request. -/
def decode : (r : Request) → RawResponse → Except ResponseError (Response r.operation.Payload)
  | .spec, raw => ((Response.reader Spec.reader).run raw.body).mapError .badDocument
  | .bootstrap _, raw => raw.decodeRecord .bootstrap
  | .updates _ count, raw => raw.decodeUpdates.bind (limit count)
  | .finalityUpdate, raw => raw.decodeRecord .finalityUpdate
  | .optimisticUpdate, raw => raw.decodeRecord .optimisticUpdate

/-- Reads the reply to a request. -/
def read (r : Request) (reply : Reply) :
  Except NodeError (r.operation.Served (Response r.operation.Payload)) :=
  if reply.status = Status.success then
    match r.decode reply.raw with
    | .ok response => .ok (r.operation.serve response)
    | .error e => .error (.response e)
  else if reply.status = Status.notFound then
    match r.operation.nothing? with
    | some nothing => .ok nothing
    | none => .error (.outage (.notFound (Fault.ofReply reply)))
  else if reply.status = Status.internalError then
    .error (.outage (.internal (Fault.ofReply reply)))
  else .error (.outage (.status reply.status reply.text))

end Request

/-- A node: the base of its URLs and the encoding that it is asked for. -/
structure Node where
  baseUrl : String
  encoding : Encoding
  deriving DecidableEq, Repr

namespace Node

/-- A text without slashes at its end. -/
def trimSlashes (text : String) : String :=
  String.ofList (Text.stripEnd (· == '/') text.toList)

/-- The node at a URL. -/
def ofUrl (url : String) (encoding : Encoding) : Node :=
  ⟨trimSlashes url, encoding⟩

/-- The encoding that a request asks for. The specification comes as JSON only. -/
def encodingFor (n : Node) (r : Request) : Encoding :=
  if r.operation = .spec then .json else n.encoding

/-- The longest URL that is sent, in bytes. -/
def longestUrl : Nat := Nat.pow 2 16 - 2

/-- What is sent to a node for a request. -/
def get (n : Node) (r : Request) : Except Unsent Get :=
  match Url.parse? (n.baseUrl ++ r.path) with
  | none => .error .badUrl
  | some (.web url) =>
    if url.scheme = .http ∨ url.scheme = .https then
      if url.render.utf8ByteSize ≤ longestUrl then .ok ⟨url, n.encodingFor r⟩
      else .error .badUrl
    else .error (.badScheme url.render)
  | some url => .error (.badScheme url.render)

/-- Makes a request of a node. -/
def attempt (n : Node) (transport : Transport) (r : Request) :
  Attempt (r.operation.Served (Response r.operation.Payload)) :=
  match n.get r with
  | .ok get => (transport get).andThen r.read
  | .error e => .ends 0 (.error (.outage (.unsent e)))

/-- Makes a request of a node for its data alone. -/
def ask (n : Node) (transport : Transport) (r : Request) : Attempt r.Answer :=
  (n.attempt transport r).map (r.operation.mapServed Response.data)

end Node

end BeaconLight

import BeaconLight.Response.Raw
import BeaconLight.Text.Utf8
import BeaconLight.Node.Status

/-!
# Replies

A `Reply` is what comes back from a node: a status code, headers and a body. Header names
count up to the case of their letters, and the blanks around a value do not belong to it. A
value with a byte that is not a visible ASCII character is passed over.

`Reply.raw` collects the headers of a reply. They are taken name by name in the order in
which the names first come, and of several content types the first counts.
-/

namespace BeaconLight

/-- What comes back from a node. -/
structure Reply where
  status : Nat
  headers : List (String × List UInt8)
  body : List UInt8
  deriving Repr

namespace Reply

/-- The reply of a status with what follows its headers, which is not a body for every
status. -/
def ofParts (status : Nat) (headers : List (String × List UInt8)) (rest : List UInt8) : Reply :=
  ⟨status, headers, if Status.hasBody status then rest else []⟩

/-- A space or a tab. -/
def isHeaderBlank (byte : UInt8) : Bool :=
  byte == 0x20 || byte == 0x09

/-- A byte that is a visible ASCII character, a space or a tab. -/
def isHeaderText (byte : UInt8) : Bool :=
  (0x20 ≤ byte && byte ≤ 0x7e) || byte == 0x09

/-- The text of the value of a header. -/
def headerText? (value : List UInt8) : Option String :=
  let bytes := Text.stripBoth isHeaderBlank value
  if bytes.all isHeaderText then
    some (String.ofList (bytes.map fun byte => Char.ofNat byte.toNat))
  else none

/-- The names of headers in lower case, each once. -/
def names (headers : List (String × List UInt8)) : List String :=
  (headers.map fun header => Text.lower header.1).eraseDups

/-- Headers with those of one name next to each other, at the place of the first. -/
def group (headers : List (String × List UInt8)) : List (String × List UInt8) :=
  (names headers).flatMap fun name =>
    headers.filter fun header => Text.lower header.1 == name

/-- The header that names the encoding of the body. -/
def contentTypeHeader : String := "content-type"

/-- The value of the first header of a name, if it is text. -/
def header? (reply : Reply) (name : String) : Option String :=
  (reply.headers.find? fun header => Text.equalsIgnoringCase header.1 name).bind
    fun header => headerText? header.2

/-- The headers whose values are text, name by name. -/
def texts (reply : Reply) : List (String × String) :=
  (group reply.headers).filterMap fun header =>
    (headerText? header.2).map fun value => (header.1, value)

/-- The reply as a response before it is decoded. -/
def raw (reply : Reply) : RawResponse :=
  RawResponse.insertHeaders
    ⟨reply.header? contentTypeHeader, none, [], reply.body⟩ reply.texts

/-- The body as text. -/
def text (reply : Reply) : String :=
  Utf8.decodeLossy reply.body

end Reply

end BeaconLight

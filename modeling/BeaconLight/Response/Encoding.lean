import BeaconLight.Json.Reader

/-!
# Encodings of responses

A client asks a node for one of two encodings with the `Accept` header. Where it asks for
SSZ it takes JSON as well.
-/

namespace BeaconLight

/-- An encoding that a client asks for. -/
inductive Encoding
  | ssz
  | json
  deriving DecidableEq, Repr, Inhabited

namespace Encoding

/-- The content type of SSZ. -/
def sszType : String := "application/octet-stream"

/-- The content type of JSON. -/
def jsonType : String := "application/json"

/-- The value of the `Accept` header that asks for an encoding. -/
def accept : Encoding → String
  | .ssz => sszType ++ ";q=1.0," ++ jsonType ++ ";q=0.9"
  | .json => jsonType

/-- The name of an encoding in configuration files. -/
def name : Encoding → String
  | .ssz => "ssz"
  | .json => "json"

/-- Reads the name of an encoding. -/
def reader : Json.Reader Encoding :=
  .choice [(ssz.name, ssz), (json.name, json)]

/-- An encoding as JSON. -/
def toJson (e : Encoding) : Json :=
  .string e.name

end Encoding

end BeaconLight

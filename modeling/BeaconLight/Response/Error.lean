import BeaconLight.Json.Reader
import BeaconLight.Record.Error

/-!
# Errors of responses

A `ResponseError` says why the data of a successful response cannot be used. It is about what
the node served and not about reaching the node.
-/

namespace BeaconLight

/-- Why the data of a response cannot be used. -/
inductive ResponseError
  /-- The body is not a JSON document of the type asked for. -/
  | badDocument (cause : Json.ReadError)
  /-- The response is of a fork without light client data. -/
  | unsupportedFork (fork : Fork)
  /-- The response names a fork that is not known. -/
  | unknownFork (text : String)
  /-- The response names no fork. -/
  | noFork
  /-- The content type is neither SSZ nor JSON. -/
  | unhandledType (value : String)
  /-- A record is malformed. -/
  | badRecord (cause : RecordError)
  /-- There are more updates than were asked for. -/
  | tooManyUpdates (requested served : Nat)
  deriving DecidableEq, Repr

/-- The wording of a response error. -/
def ResponseError.message : ResponseError → String
  | .badDocument cause => "json deserialization error: " ++ cause.message
  | .unsupportedFork fork => "unsupported version " ++ fork.name
  | .unknownFork text => "unknown consensus version '" ++ text ++ "'"
  | .noFork => "response carries no consensus version"
  | .unhandledType value => "unhandled content type '" ++ value ++ "'"
  | .badRecord cause => "failed to decode response: " ++ cause.message
  | .tooManyUpdates requested served =>
    "requested at most " ++ Text.decimal requested ++ " updates, node served "
      ++ Text.decimal served

end BeaconLight

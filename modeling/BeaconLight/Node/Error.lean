import BeaconLight.Node.Reply
import BeaconLight.Response.Error
import BeaconLight.Text.Duration

/-!
# Errors of a node

A `NodeError` is either an `Outage`, which says nothing about the data but only that this
node could not serve it, or an error in the response that it served. Another node may still
serve what one with an outage did not.
-/

namespace BeaconLight

/-- An error that a node reports in the body of its reply. -/
structure Fault where
  code : Nat
  title : String
  detail : String
  deriving DecidableEq, Repr

namespace Fault

/-- The names that a node reports the parts of a fault under. -/
def fields :
  Json.FieldReaders (Nat × String × String × Unit)
    (Option Nat × Option String × Option String × Unit) :=
  .cons ⟨"statusCode", ["code"], .word, none⟩ <|
  .cons (.optional "error" .text "") <|
  .cons (.optional "message" .text "") .nil

/-- Reads a fault. -/
def reader : Json.Reader Fault := fun o => do
  let (code, title, detail, ()) ← Json.Reader.record "fault" fields o
  return ⟨code, title, detail⟩

/-- The fault that a reply reports. A body that is no report is kept as the detail. -/
def ofReply (reply : Reply) : Fault :=
  match reader.run (Utf8.encode reply.text.toList) with
  | .ok fault => fault
  | .error _ => ⟨reply.status, (Status.reason? reply.status).getD "", reply.text⟩

/-- The wording of a fault. -/
def message (f : Fault) : String :=
  Text.decimal f.code ++ " " ++ f.title ++ ": " ++ f.detail

end Fault

/-- Why a request came to no reply. -/
inductive Unsent
  /-- The text is no URL. -/
  | badUrl
  /-- The URL is not one that requests can be sent to. -/
  | badScheme (url : String)
  /-- Nothing answers at the URL. -/
  | unreachable (url : String)
  deriving DecidableEq, Repr

/-- The wording of a request that came to no reply. -/
def Unsent.message : Unsent → String
  | .badUrl => "builder error"
  | .badScheme url => "builder error for url (" ++ url ++ ")"
  | .unreachable url => "error sending request for url (" ++ url ++ ")"

/-- Why a node could not serve what it was asked for. -/
inductive Outage
  | unsent (cause : Unsent)
  /-- There was no reply within a number of milliseconds. -/
  | timedOut (limit : Nat)
  | notFound (fault : Fault)
  | internal (fault : Fault)
  /-- The reply has another status. -/
  | status (code : Nat) (text : String)
  deriving DecidableEq, Repr

/-- The wording of an outage. -/
def Outage.message : Outage → String
  | .unsent cause => "http error: " ++ cause.message
  | .timedOut limit => "request timed out after " ++ Text.duration limit
  | .notFound fault => "not found: " ++ fault.message
  | .internal fault => "internal error: " ++ fault.message
  | .status code text => "unknown error (" ++ Status.describe code ++ "): " ++ text

/-- What goes wrong with a request to a node. -/
inductive NodeError
  | outage (cause : Outage)
  | response (cause : ResponseError)
  deriving DecidableEq, Repr

namespace NodeError

/-- The error says nothing about the data, only that this node could not serve it. -/
def isConnectivity : NodeError → Bool
  | .outage _ => true
  | .response _ => false

/-- The wording of an error. -/
def message : NodeError → String
  | .outage cause => cause.message
  | .response cause => cause.message

end NodeError

end BeaconLight

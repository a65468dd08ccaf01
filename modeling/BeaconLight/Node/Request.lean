import BeaconLight.Chain.Spec
import BeaconLight.Record.Versioned
import BeaconLight.Response.Envelope

/-!
# Requests

The requests that a light client makes of a node. Each is of an `Operation`, which fixes the
type of what is served. A node may have nothing to serve yet where it is asked for updates,
while the specification and a bootstrap are either served or refused.
-/

namespace BeaconLight

/-- What a node can be asked for. -/
inductive Operation
  | spec
  | bootstrap
  | updates
  | finalityUpdate
  | optimisticUpdate
  deriving DecidableEq, Repr

namespace Operation

/-- What an operation is for, in errors. -/
def name : Operation → String
  | .spec => "fetch spec"
  | .bootstrap => "fetch bootstrap"
  | .updates => "fetch updates"
  | .finalityUpdate => "fetch finality update"
  | .optimisticUpdate => "fetch optimistic update"

/-- The type of what an operation serves. -/
def Payload : Operation → Type
  | .spec => Spec
  | .bootstrap => Versioned .bootstrap
  | .updates => List (Versioned .update)
  | .finalityUpdate => Versioned .finalityUpdate
  | .optimisticUpdate => Versioned .optimisticUpdate

/-- The type of data of an operation, with nothing at all for the operations that a node may
have nothing to serve for. -/
def Served (α : Type) : Operation → Type
  | .spec | .bootstrap => α
  | .updates | .finalityUpdate | .optimisticUpdate => Option α

/-- The type of the answer to an operation. -/
def Answer (operation : Operation) : Type :=
  operation.Served operation.Payload

/-- Data that a node serves. -/
def serve {α : Type} : (operation : Operation) → α → operation.Served α
  | .spec, x | .bootstrap, x => x
  | .updates, x | .finalityUpdate, x | .optimisticUpdate, x => some x

/-- Nothing to serve, for the operations that allow it. -/
def nothing? {α : Type} : (operation : Operation) → Option (operation.Served α)
  | .spec | .bootstrap => none
  | .updates | .finalityUpdate | .optimisticUpdate => some none

/-- Changes the data that a node serves. -/
def mapServed {α β : Type} (f : α → β) :
  (operation : Operation) → operation.Served α → operation.Served β
  | .spec, x | .bootstrap, x => f x
  | .updates, x | .finalityUpdate, x | .optimisticUpdate, x => Option.map f x

end Operation

/-- A request to a node. -/
inductive Request
  | spec
  /-- The bootstrap of a block, which is named as the caller names it. -/
  | bootstrap (blockId : String)
  /-- At most `count` updates from a sync committee period on. -/
  | updates (startPeriod count : Nat)
  | finalityUpdate
  | optimisticUpdate
  deriving DecidableEq, Repr

namespace Request

/-- The operation of a request. -/
def operation : Request → Operation
  | .spec => .spec
  | .bootstrap _ => .bootstrap
  | .updates .. => .updates
  | .finalityUpdate => .finalityUpdate
  | .optimisticUpdate => .optimisticUpdate

/-- The type of the answer to a request. -/
abbrev Answer (r : Request) : Type :=
  r.operation.Answer

/-- The path of a request, with its query. -/
def path : Request → String
  | .spec => "/eth/v1/config/spec"
  | .bootstrap blockId => "/eth/v1/beacon/light_client/bootstrap/" ++ blockId
  | .updates startPeriod count =>
    "/eth/v1/beacon/light_client/updates?start_period=" ++ Text.decimal startPeriod
      ++ "&count=" ++ Text.decimal count
  | .finalityUpdate => "/eth/v1/beacon/light_client/finality_update"
  | .optimisticUpdate => "/eth/v1/beacon/light_client/optimistic_update"

end Request

end BeaconLight

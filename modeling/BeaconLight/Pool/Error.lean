import BeaconLight.Node.Error
import BeaconLight.Node.Request

/-!
# Errors of a pool

A request to a pool of nodes fails when a node served something that cannot be used, when
every node had an outage, or when it was cancelled.
-/

namespace BeaconLight

/-- The error of one backend of a pool. -/
structure Failure where
  backend : String
  error : NodeError
  deriving DecidableEq, Repr

/-- Why a request to a pool fails. -/
inductive PoolError
  /-- The pool has no backends. -/
  | noBackends
  | cancelled (operation : Operation)
  /-- A backend served a response that cannot be used. -/
  | refused (failure : Failure)
  /-- Every backend failed, in the order in which they did. -/
  | exhausted (operation : Operation) (failures : List Failure)
  deriving DecidableEq, Repr

/-- The wording of the error of one backend. -/
def Failure.message (f : Failure) : String :=
  f.backend ++ ": " ++ f.error.message

/-- The wording of a pool error. -/
def PoolError.message : PoolError → String
  | .noBackends => "at least one backend is required"
  | .cancelled operation => operation.name ++ " cancelled"
  | .refused failure => "backend " ++ failure.backend ++ " failed: " ++ failure.error.message
  | .exhausted operation failures =>
    "all backends failed to " ++ operation.name ++ ": "
      ++ "; ".intercalate (failures.map Failure.message)

end BeaconLight

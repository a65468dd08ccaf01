import BeaconLight.Pool.Error

/-!
# Dispatching a request

A request goes to every backend of a pool, and `Dispatch` is how far it has got. It waits for
attempts that have not completed and keeps the failures of those that have, or it is settled.

At each `turn` the token is looked at first: a cancelled dispatch is settled whatever else
has happened. Otherwise the next attempt that has completed is looked at. The first one that
did not fail for an outage decides, and when all failed for outages there is nothing left to
wait for.
-/

namespace BeaconLight

/-- An attempt that has completed: whose it is and what it came to. -/
structure Completion (α : Type) where
  backend : String
  outcome : Except NodeError α

/-- How far a request to the backends of a pool has got. -/
inductive Dispatch (α : Type)
  /-- So many attempts have not completed, and those that have failed with outages. -/
  | waiting (pending : Nat) (failures : List Failure)
  | settled (result : Except PoolError α)

namespace Dispatch

variable {α : Type}

/-- A request of which no attempt has completed. -/
def start (backends : Nat) : Dispatch α :=
  .waiting backends []

/-- Looks at an attempt that has completed. -/
def take (pending : Nat) (failures : List Failure) (c : Completion α) : Dispatch α :=
  match c.outcome with
  | .ok value => .settled (.ok value)
  | .error e =>
    if e.isConnectivity then .waiting pending (failures ++ [⟨c.backend, e⟩])
    else .settled (.error (.refused ⟨c.backend, e⟩))

/-- One turn: looks at the token, and then at the next attempt that has completed. -/
def turn (operation : Operation) (cancelled : Bool) (ready : Option (Completion α)) :
  Dispatch α → Dispatch α
  | .settled result => .settled result
  | .waiting pending failures =>
    if cancelled then .settled (.error (.cancelled operation))
    else
      match pending, ready with
      | 0, _ => .settled (.error (.exhausted operation failures))
      | pending + 1, some c => take pending failures c
      | pending + 1, none => .waiting (pending + 1) failures

/-- Looks at completed attempts in order, the token not being cancelled. -/
def run (operation : Operation) (d : Dispatch α) (completions : List (Completion α)) :
  Dispatch α :=
  completions.foldl (fun d c => d.turn operation false (some c)) d

/-- The result of a dispatch that has nothing to wait for. -/
def conclude (operation : Operation) : Dispatch α → Except PoolError α
  | .settled result => result
  | .waiting _ failures => .error (.exhausted operation failures)

/-- The result of a request whose attempts complete in a given order. -/
def verdict (operation : Operation) (completions : List (Completion α)) : Except PoolError α :=
  ((start completions.length).run operation completions).conclude operation

end Dispatch

end BeaconLight

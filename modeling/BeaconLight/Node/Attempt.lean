import BeaconLight.Node.Error

/-!
# Attempts

An `Attempt` is how a request goes in time: it ends after some milliseconds with data or an
error, or it never ends. Under a time limit every attempt ends, and one that would end after
the limit is given up at the limit.
-/

namespace BeaconLight

/-- How a request goes in time. -/
inductive Attempt (α : Type)
  | ends (after : Nat) (outcome : Except NodeError α)
  | hangs

/-- How a request ends under a time limit: when, in what, and whether by itself. -/
structure Ending (α : Type) where
  time : Nat
  outcome : Except NodeError α
  byItself : Bool

namespace Attempt

variable {α β : Type}

/-- The attempt with its outcome taken further. -/
def andThen (a : Attempt α) (f : α → Except NodeError β) : Attempt β :=
  match a with
  | .ends after outcome => .ends after (outcome.bind f)
  | .hangs => .hangs

/-- The attempt with the data that it ends in changed. -/
def map (f : α → β) (a : Attempt α) : Attempt β :=
  a.andThen fun x => .ok (f x)

/-- How an attempt ends under a time limit. An attempt that ends at the limit is in time. -/
def within (limit : Nat) (a : Attempt α) : Ending α :=
  match a with
  | .ends after outcome => if after ≤ limit then ⟨after, outcome, true⟩ else expire
  | .hangs => expire
where
  expire : Ending α :=
    ⟨limit, .error (.outage (.timedOut limit)), false⟩

end Attempt

end BeaconLight

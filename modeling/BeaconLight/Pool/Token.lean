/-!
# Cancellation tokens

A pool has a token, which stays cancelled once it is. The token is the pool's own, or a child
of another one, or that other one itself. Cancelling a token cancels its children and not its
parent.
-/

namespace BeaconLight

/-- How the token of a pool stands to the other token. -/
inductive TokenLink
  /-- It has nothing to do with it. -/
  | own
  | child
  /-- It is the other token. -/
  | shared
  deriving DecidableEq, Repr

/-- The token of a pool and the other token, and which of them are cancelled. -/
structure Token where
  link : TokenLink
  cancelled : Bool
  parentCancelled : Bool
  deriving DecidableEq, Repr

namespace Token

/-- A token that is not cancelled. -/
def fresh (link : TokenLink) : Token :=
  ⟨link, false, false⟩

/-- Cancels the token of the pool. -/
def cancel (t : Token) : Token :=
  { t with cancelled := true, parentCancelled := t.parentCancelled || t.link == .shared }

/-- Cancels the other token. -/
def cancelParent (t : Token) : Token :=
  { t with cancelled := t.cancelled || t.link != .own, parentCancelled := true }

end Token

end BeaconLight

import BeaconLight.Node.Attempt
import BeaconLight.Pool.Dispatch
import BeaconLight.Pool.Token

/-!
# Pools over time

A `Pool` asks several backends for the same thing at once, each under a time limit, and the
first that settles the dispatch ends the request. `Pool.ask` is a request over time: the
state of a `Session` holds how long it has lasted, which requests each backend has got, and
how many of them were abandoned before they ended by themselves.

Backends start in the order of the pool. An attempt that ends at once is looked at before the
next backend starts, so a backend behind one that settles the dispatch is never asked. The
other attempts are looked at in the order in which they end.
-/

namespace BeaconLight

/-- A backend of a pool: its name, and how it takes a request after those it has got. -/
structure Backend where
  name : String
  serve : List Request → (r : Request) → Attempt r.Answer

/-- Backends that are asked together, each under a limit in milliseconds. -/
structure Pool where
  backends : List Backend
  limit : Nat

/-- The pool of some backends, of which there has to be one. -/
def Pool.ofBackends (backends : List Backend) (limit : Nat) : Except PoolError Pool :=
  if backends.isEmpty then .error .noBackends else .ok ⟨backends, limit⟩

/-- The names of the backends of a pool, in order. -/
def Pool.names (p : Pool) : List String :=
  p.backends.map Backend.name

/-- What a backend has seen: the requests that it got, and how many of them were given up. -/
structure Traffic where
  requests : List Request
  abandoned : Nat
  deriving Repr

/-- The state of a pool between requests: its token, the milliseconds after which it will be
cancelled, those that have passed, and what each backend has seen. -/
structure Session where
  token : Token
  cancelAfter : Option Nat
  elapsed : Nat
  traffic : List Traffic

/-- The state of a pool that has not been asked for anything. -/
def Session.fresh (p : Pool) (link : TokenLink) : Session :=
  ⟨.fresh link, none, 0, p.backends.map fun _ => ⟨[], 0⟩⟩

/-- Plans to cancel the token after some milliseconds, unless that is planned for earlier. -/
def Session.cancelWithin (moment : Nat) (s : Session) : Session :=
  { s with cancelAfter := some ((s.cancelAfter.map (min moment)).getD moment) }

/-- How the attempt of a backend ends; the backend has a place in the pool. -/
structure Arrival (α : Type) where
  place : Nat
  backend : String
  ending : Ending α

namespace Arrival

variable {α : Type}

/-- The attempt as one that has completed. -/
def completion (a : Arrival α) : Completion α :=
  ⟨a.backend, a.ending.outcome⟩

/-- The arrivals in the order in which they are looked at. -/
def inOrder (arrivals : List (Arrival α)) : List (Arrival α) :=
  arrivals.mergeSort fun a b => a.ending.time ≤ b.ending.time

end Arrival

/-- How a dispatch over time is settled: its result, when, the arrivals that were not looked
at, and the place of the last backend that was started if not all were. -/
structure Settlement (α : Type) where
  result : Except PoolError α
  time : Nat
  unseen : List (Arrival α)
  lastStarted : Option Nat

namespace Settlement

variable {α : Type}

/-- The token is cancelled by the time an attempt ends, unless it ends at once. -/
def isCancelledBy (cancelAfter : Option Nat) (time : Nat) : Bool :=
  match cancelAfter with
  | some moment => 0 < time && moment ≤ time
  | none => false

/-- Follows a dispatch through arrivals in the order of time. -/
def follow (operation : Operation) (cancelAfter : Option Nat) (now : Nat) (d : Dispatch α) :
  List (Arrival α) → Settlement α
  | [] => ⟨d.conclude operation, now, [], none⟩
  | a :: rest =>
    if isCancelledBy cancelAfter a.ending.time then
      ⟨(d.turn operation true none).conclude operation, cancelAfter.getD now, a :: rest, none⟩
    else
      match d.turn operation false (some a.completion) with
      | .settled result =>
        ⟨result, a.ending.time, rest, if a.ending.time = 0 then some a.place else none⟩
      | waiting => follow operation cancelAfter a.ending.time waiting rest

/-- The backend at a place was started. -/
def started (s : Settlement α) (place : Nat) : Bool :=
  match s.lastStarted with
  | some last => place ≤ last
  | none => true

/-- The attempt was given up before it ended by itself. -/
def abandoned (s : Settlement α) (a : Arrival α) : Bool :=
  !a.ending.byItself || s.unseen.any fun other => other.place == a.place

/-- What a backend has seen after a request. -/
def account (s : Settlement α) (r : Request) (a : Arrival α) (t : Traffic) : Traffic :=
  if s.started a.place then
    ⟨t.requests ++ [r], t.abandoned + if s.abandoned a then 1 else 0⟩
  else t

/-- The dispatch was cancelled. -/
def isCancelled (s : Settlement α) : Bool :=
  match s.result with
  | .error (.cancelled _) => true
  | _ => false

end Settlement

namespace Pool

/-- How the attempts of the backends end. -/
def arrivals (p : Pool) (traffic : List Traffic) (r : Request) : List (Arrival r.Answer) :=
  (p.backends.zip traffic).mapIdx fun place (backend, seen) =>
    ⟨place, backend.name, (backend.serve seen.requests r).within p.limit⟩

/-- Asks the backends of a pool, none of which is started when the token is cancelled. -/
def ask (p : Pool) (r : Request) : StateM Session (Except PoolError r.Answer) := fun s =>
  if s.token.cancelled then (.error (.cancelled r.operation), s)
  else
    let arrivals := p.arrivals s.traffic r
    let settlement :=
      Settlement.follow r.operation s.cancelAfter 0 (.start arrivals.length)
        (Arrival.inOrder arrivals)
    let token := if settlement.isCancelled then s.token.cancel else s.token
    let traffic := List.zipWith (settlement.account r) arrivals s.traffic
    (settlement.result,
      ⟨token, s.cancelAfter.map (· - settlement.time), s.elapsed + settlement.time, traffic⟩)

end Pool

end BeaconLight

import BeaconLight.Pool.Session

/-!
# A pool in use

Requests may be made of a pool while others are in flight, and all of them share its token. A
`Service` is such a pool: its token, the requests that its backends have got, and its requests
with their dispatches. What happens to it is one `Action` after another, in any order: a request
is made, a dispatch has a turn, an attempt completes, or a token is cancelled.

An attempt is not begun before its dispatch polls for what is ready. At a turn of a dispatch that
is not cancelled, the backends that have not been asked are asked one after another up to the
first whose attempt ends at once. Behind them stand the attempts that have completed since, in
the order in which they did. A dispatch that is settled drops all its attempts.
-/

namespace BeaconLight

/-- The requests that the backend at each place of a pool has got. -/
abbrev Asked : Type := Nat → List Request

/-- The backend at a place gets a request. -/
def Asked.add (asked : Asked) (place : Nat) (r : Request) : Asked :=
  fun other => if other = place then asked place ++ [r] else asked other

/-- The attempts of a dispatch that have not been looked at. -/
structure Line (α : Type) where
  /-- The backends that have not been asked, with their places. -/
  unasked : List (Backend × Nat)
  /-- The attempts that have begun. -/
  running : List (Arrival α)
  /-- The attempts that have completed. -/
  ready : List (Arrival α)

/-- There are no attempts. -/
def Line.empty {α : Type} : Line α :=
  ⟨[], [], []⟩

/-- What polling comes to: the attempt that is looked at, if one is ready, and what the backends
have got and which attempts are left. -/
structure Polled (α : Type) where
  found : Option (Arrival α)
  asked : Asked
  line : Line α

/-- How a backend at a place takes a request under a limit. -/
def Backend.arrival (b : Backend) (place limit : Nat) (asked : Asked) (r : Request) :
  Arrival r.Answer :=
  ⟨place, b.name, (b.serve (asked place) r).within limit⟩

/-- Polls for an attempt that is ready. -/
def Line.poll (limit : Nat) (r : Request) : List (Backend × Nat) → List (Arrival r.Answer) →
  List (Arrival r.Answer) → Asked → Polled r.Answer
  | [], running, [], asked => ⟨none, asked, ⟨[], running, []⟩⟩
  | [], running, a :: ready, asked => ⟨some a, asked, ⟨[], running, ready⟩⟩
  | (b, place) :: rest, running, ready, asked =>
    let a := b.arrival place limit asked r
    if a.ending.time = 0 then ⟨some a, asked.add place r, ⟨rest, running, ready⟩⟩
    else poll limit r rest (running ++ [a]) ready (asked.add place r)

/-- The running attempt at an index completes, if there is one. -/
def Line.finish {α : Type} (line : Line α) (index : Nat) : Line α :=
  match line.running[index]? with
  | none => line
  | some a => ⟨line.unasked, line.running.eraseIdx index, line.ready ++ [a]⟩

/-- A request that was made, with its dispatch and the attempts that are left. -/
structure Flight where
  request : Request
  line : Line request.Answer
  dispatch : Dispatch request.Answer

namespace Flight

/-- A request of which nothing has been done. -/
def new (p : Pool) (r : Request) : Flight :=
  ⟨r, ⟨p.backends.zipIdx, [], []⟩, .start p.backends.length⟩

/-- A request whose dispatch goes on with some attempts; one that is settled drops them. -/
def goOn (r : Request) (line : Line r.Answer) : Dispatch r.Answer → Flight
  | .settled result => ⟨r, .empty, .settled result⟩
  | waiting => ⟨r, line, waiting⟩

/-- One turn, with what the backends have got after it. -/
def turn (p : Pool) (cancelled : Bool) (asked : Asked) (f : Flight) : Asked × Flight :=
  match f.dispatch with
  | .settled _ => (asked, f)
  | .waiting .. =>
    if cancelled then
      (asked, goOn f.request f.line (f.dispatch.turn f.request.operation true none))
    else
      let polled := Line.poll p.limit f.request f.line.unasked f.line.running f.line.ready asked
      let completed := polled.found.map Arrival.completion
      (polled.asked,
        goOn f.request polled.line (f.dispatch.turn f.request.operation false completed))

/-- The running attempt at an index completes. -/
def finish (f : Flight) (index : Nat) : Flight :=
  ⟨f.request, f.line.finish index, f.dispatch⟩

end Flight

/-- A pool in use: its token, what its backends have got, and its requests. -/
structure Service where
  token : Token
  asked : Asked
  flights : List Flight

/-- What happens to a pool in use. -/
inductive Action
  /-- A request is made. -/
  | ask (r : Request)
  /-- The dispatch of the request at an index has a turn. -/
  | turn (flight : Nat)
  /-- One of the running attempts of the request at an index completes. -/
  | finish (flight index : Nat)
  /-- The token of the pool is cancelled. -/
  | cancel
  /-- The other token is cancelled. -/
  | cancelParent
  deriving DecidableEq

namespace Service

/-- A pool of which no request has been made since some point. -/
def idle (token : Token) (asked : Asked) : Service :=
  ⟨token, asked, []⟩

/-- One thing happens. -/
def step (p : Pool) (s : Service) : Action → Service
  | .ask r => { s with flights := s.flights ++ [.new p r] }
  | .turn i =>
    match s.flights[i]? with
    | none => s
    | some f =>
      let (asked, f') := f.turn p s.token.cancelled s.asked
      { s with asked := asked, flights := s.flights.set i f' }
  | .finish i index => { s with flights := s.flights.modify i (Flight.finish · index) }
  | .cancel => { s with token := s.token.cancel }
  | .cancelParent => { s with token := s.token.cancelParent }

/-- One thing happens after another. -/
def run (p : Pool) (s : Service) (actions : List Action) : Service :=
  actions.foldl (step p) s

end Service

end BeaconLight

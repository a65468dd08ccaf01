import BeaconLight.Pool.Session
import BeaconLight.Proofs.Pool.Dispatch

/-!
# Requests to the backends of a pool

A session keeps the traffic of each backend of its pool, over any number of requests. The attempts
of a request are those of the backends, each once.
-/

namespace BeaconLight

/-- The session has the traffic of each backend of the pool. -/
def Session.Fits (p : Pool) (s : Session) : Prop :=
  s.traffic.length = p.backends.length

theorem Session.fits_fresh (p : Pool) (link : TokenLink) :
  (Session.fresh p link).Fits p
  := by
  apply List.length_map

namespace Pool

variable (p : Pool) {s : Session}

theorem length_arrivals (hs : s.Fits p) (r : Request) :
  (p.arrivals s.traffic r).length = p.backends.length
  := by
  rw [arrivals, List.length_mapIdx, List.length_zip, hs, Nat.min_self]

theorem fits_ask (hs : s.Fits p) (r : Request) :
  (p.ask r s).2.Fits p
  := by
  unfold ask
  split
  · exact hs
  · rw [Session.Fits, List.length_zipWith, length_arrivals p hs, hs, Nat.min_self]

/-- The session after requests that are made one after another. -/
def after (requests : List Request) (s : Session) : Session :=
  requests.foldl (fun s r => (p.ask r s).2) s

/-- A session keeps the traffic of each backend over all requests. -/
theorem fits_after (hs : s.Fits p) (requests : List Request) :
  (p.after requests s).Fits p
  := by
  induction requests generalizing s with
  | nil => exact hs
  | cons r rest ih => exact ih (fits_ask p hs r)

/-- How the attempts of the backends of a pool complete, in the order of the pool. -/
def completions (s : Session) (r : Request) : List (Completion r.Answer) :=
  (p.arrivals s.traffic r).map Arrival.completion

theorem map_backend_completions (hs : s.Fits p) (r : Request) :
  (p.completions s r).map Completion.backend = p.names
  := by
  have hlength : (p.arrivals s.traffic r).length = p.backends.length := length_arrivals p hs r
  apply List.ext_getElem
  · rw [List.length_map, completions, List.length_map, hlength, names, List.length_map]
  · intro place hplace hplace'
    simp [completions, arrivals, names, Arrival.completion]

/-- How asking a pool is settled, while its token is not cancelled. -/
def settlement (p : Pool) (s : Session) (r : Request) : Settlement r.Answer :=
  .follow r.operation s.cancelAfter 0 (.start (p.arrivals s.traffic r).length)
    (Arrival.inOrder (p.arrivals s.traffic r))

/-- While the token is not cancelled, asking a pool follows its settlement. -/
theorem ask_eq (htoken : s.token.cancelled = false) (r : Request) :
  p.ask r s = ((p.settlement s r).result,
    ⟨if (p.settlement s r).isCancelled then s.token.cancel else s.token,
      s.cancelAfter.map (· - (p.settlement s r).time), s.elapsed + (p.settlement s r).time,
      List.zipWith ((p.settlement s r).account r) (p.arrivals s.traffic r) s.traffic⟩)
  := by
  rw [ask, htoken]
  rfl

end Pool

/-- A result is no cancellation unless it says so. -/
theorem Settlement.isCancelled_eq_false {α : Type} {s : Settlement α}
    (h : ∀ operation, s.result ≠ .error (.cancelled operation)) :
  s.isCancelled = false
  := by
  unfold isCancelled
  split
  case h_1 hresult => exact absurd hresult (h _)
  case h_2 => rfl

end BeaconLight

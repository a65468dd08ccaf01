import BeaconLight.Proofs.Pool.Plan
import BeaconLight.Proofs.Pool.Replay
import BeaconLight.Proofs.Pool.Timing

/-!
# Cancellation

Cancelling the token of a pool is final. From then on no backend is asked, a request that waits is
cancelled at its next turn whatever is ready, and so is every request that is made later, while
one that is settled stays as it is. A plan to cancel the token is followed at its moment.
-/

namespace BeaconLight

namespace Flight

variable {p : Pool} {s : Service} {i : Nat} {f : Flight}

theorem isSettled_cancelled (f : Flight) :
  f.cancelled.IsSettled
  := ⟨_, rfl⟩

/-- A request that is settled stays as it is, whatever happens. -/
theorem after_of_isSettled {cancelled : Bool} (hsound : f.Sound p cancelled) (h : f.IsSettled)
    (a : Action) :
  f.after p s i a = f
  := by
  cases a with
  | turn j =>
    rw [after]
    split
    · rw [f.turn_of_isSettled h]
    · rfl
  | finish j index =>
    rw [after]
    split
    · have hline := hsound.dropped h
      obtain ⟨r, line, dispatch⟩ := f
      obtain rfl : line = .empty := hline
      rfl
    · rfl
  | _ => rfl

/-- Under a cancelled token a request that waits is cancelled at its turn and otherwise waits on,
with some of its attempts completed. -/
theorem after_of_not_isSettled (htoken : s.token.cancelled = true) (h : ¬ f.IsSettled)
    (a : Action) :
  a = .turn i ∧ f.after p s i a = f.cancelled ∨
  a ≠ .turn i ∧ ∃ indices : List Nat,
    f.after p s i a = ⟨f.request, indices.foldl Line.finish f.line, f.dispatch⟩
  := by
  cases a with
  | turn j =>
    rw [after]
    split
    case isTrue hj =>
      left
      subst hj
      rw [htoken, f.turn_of_not_isSettled h]
      exact ⟨rfl, rfl⟩
    case isFalse hj =>
      right
      refine ⟨?_, [], rfl⟩
      intro hturn
      apply hj (Action.turn.inj hturn)
  | finish j index =>
    right
    rw [after]
    split
    · refine ⟨?_, [index], rfl⟩
      rintro ⟨⟩
    · refine ⟨?_, [], rfl⟩
      rintro ⟨⟩
  | _ =>
    right
    refine ⟨?_, [], rfl⟩
    rintro ⟨⟩

end Flight

namespace Service

variable {p : Pool} {s : Service} {i : Nat} {f : Flight}

/-- The token is cancelled exactly when it was or something reached it. -/
theorem cancelled_run_iff (s : Service) (actions : List Action) :
  (s.run p actions).token.cancelled = true ↔
    s.token.cancelled = true ∨ ∃ a ∈ actions, s.token.IsReached a
  := by
  induction actions generalizing s with
  | nil => simp [run]
  | cons a rest ih =>
    obtain ⟨hlink, hcancelled⟩ := token_step_iff (p := p) s a
    have hreached (b : Action) : (s.step p a).token.IsReached b ↔ s.token.IsReached b := by
      cases b with
      | cancelParent => rw [Token.IsReached, hlink, Token.IsReached]
      | _ => rfl
    show ((s.step p a).run p rest).token.cancelled = true ↔ _
    rw [ih, hcancelled]
    simp only [hreached, List.mem_cons, or_and_right, exists_or, exists_eq_left, or_assoc]

theorem cancelled_run (h : s.token.cancelled = true) (actions : List Action) :
  (s.run p actions).token.cancelled = true
  := by
  rw [cancelled_run_iff]
  exact .inl h

/-- Under a cancelled token no backend is asked. -/
theorem asked_run (h : s.token.cancelled = true) (actions : List Action) :
  (s.run p actions).asked = s.asked
  := by
  have hkept : (s.run p actions).token.cancelled = true ∧ (s.run p actions).asked = s.asked := by
    apply run_keeps (P := fun t => t.token.cancelled = true ∧ t.asked = s.asked) _ ⟨h, rfl⟩
    rintro t a ⟨ht, hasked⟩
    exact ⟨cancelled_step ht a, (asked_step ht a).trans hasked⟩
  apply hkept.2

/-- A request that is settled stays as it is. -/
theorem getElem?_run_of_isSettled (hsound : s.Sound p) (hf : s.flights[i]? = some f)
    (h : f.IsSettled) (actions : List Action) :
  (s.run p actions).flights[i]? = some f
  := by
  have hkept : (s.run p actions).Sound p ∧ (s.run p actions).flights[i]? = some f := by
    apply run_keeps (P := fun t => t.Sound p ∧ t.flights[i]? = some f) _ ⟨hsound, hf⟩
    rintro t a ⟨ht, htf⟩
    rw [getElem?_step htf, f.after_of_isSettled (ht i f htf) h]
    exact ⟨ht.step a, rfl⟩
  apply hkept.2

/-- Under a cancelled token a request that waits is cancelled once it has a turn, and otherwise
waits on, with some of its attempts completed. -/
theorem getElem?_run_of_not_isSettled (hsound : s.Sound p) (htoken : s.token.cancelled = true)
    (hf : s.flights[i]? = some f) (h : ¬ f.IsSettled) (actions : List Action) :
  ∃ indices : List Nat, (s.run p actions).flights[i]? = some
    (if .turn i ∈ actions then f.cancelled
      else ⟨f.request, indices.foldl Line.finish f.line, f.dispatch⟩)
  := by
  induction actions generalizing s f with
  | nil => exact ⟨[], hf⟩
  | cons a rest ih =>
    have hstep := getElem?_step (p := p) hf a
    rcases f.after_of_not_isSettled (p := p) (i := i) htoken h a with ⟨rfl, ha⟩ | ⟨hne, indices, ha⟩
    · rw [ha] at hstep
      refine ⟨[], ?_⟩
      rw [if_pos List.mem_cons_self]
      apply getElem?_run_of_isSettled (hsound.step _) hstep f.isSettled_cancelled
    · rw [ha] at hstep
      obtain ⟨later, hrun⟩ := ih (hsound.step a) (cancelled_step htoken a) hstep h
      refine ⟨indices ++ later, ?_⟩
      have hmem : .turn i ∈ a :: rest ↔ .turn i ∈ rest := by
        rw [List.mem_cons, or_iff_right (Ne.symm hne)]
      simp only [hmem, List.foldl_append]
      exact hrun

/-- Under a cancelled token a request that is made waits until it has a turn, which cancels it, and
none of its attempts is begun. -/
theorem getElem?_run_ask (hsound : s.Sound p) (htoken : s.token.cancelled = true) (r : Request)
    (actions : List Action) :
  ((s.step p (.ask r)).run p actions).flights[s.flights.length]? = some
    (if .turn s.flights.length ∈ actions then (Flight.new p r).cancelled else .new p r)
  := by
  have hnew : (s.step p (.ask r)).flights[s.flights.length]? = some (.new p r) :=
    List.getElem?_concat_length
  obtain ⟨indices, hrun⟩ := getElem?_run_of_not_isSettled (hsound.step (.ask r))
    (cancelled_step htoken (.ask r)) hnew (Flight.not_isSettled_new p r) actions
  have hline : indices.foldl Line.finish (Flight.new p r).line = (Flight.new p r).line := by
    clear hrun
    induction indices with
    | nil => rfl
    | cons index rest ih => exact ih
  rw [hline] at hrun
  exact hrun

/-- What cancelling the token of a pool in use comes to. -/
structure Cancellation (p : Pool) (s : Service) : Prop where
  /-- A request is cancelled by name, and only when the token has been cancelled. -/
  only : ∀ (i : Nat) (f : Flight) (operation : Operation), s.flights[i]? = some f →
    f.dispatch = .settled (.error (.cancelled operation)) →
    operation = f.request.operation ∧ s.token.cancelled = true
  /-- The token stays cancelled, whatever happens. -/
  permanent : s.token.cancelled = true → ∀ actions, (s.run p actions).token.cancelled = true
  /-- The next turn of a request that waits cancels it, whatever of its attempts is ready. These are
  dropped with the failures so far, and nothing else changes. -/
  turn : s.token.cancelled = true → ∀ (i : Nat) (f : Flight), s.flights[i]? = some f →
    ¬ f.IsSettled → s.step p (.turn i) = { s with flights := s.flights.set i f.cancelled }
  /-- Whatever happens, a request that waits is cancelled once it has had a turn, and has not moved
  before, except that attempts have completed. -/
  waiting : s.token.cancelled = true → ∀ (i : Nat) (f : Flight), s.flights[i]? = some f →
    ¬ f.IsSettled → ∀ actions, ∃ indices : List Nat, (s.run p actions).flights[i]? = some
      (if .turn i ∈ actions then f.cancelled
        else ⟨f.request, indices.foldl Line.finish f.line, f.dispatch⟩)
  /-- A request that is made later is cancelled once it has had a turn, and none of its attempts
  is begun. -/
  later : s.token.cancelled = true → ∀ r actions,
    ((s.step p (.ask r)).run p actions).flights[s.flights.length]? = some
      (if .turn s.flights.length ∈ actions then (Flight.new p r).cancelled else .new p r)
  /-- No backend is asked any more, whatever happens. -/
  asked : s.token.cancelled = true → ∀ actions, (s.run p actions).asked = s.asked
  /-- A request that is settled stays as it is, whatever happens. -/
  settled : ∀ (i : Nat) (f : Flight), s.flights[i]? = some f → f.IsSettled →
    ∀ actions, (s.run p actions).flights[i]? = some f

/-- In a pool in use whose requests are sound, cancelling the token is final. -/
theorem Sound.cancellation (hsound : s.Sound p) :
  s.Cancellation p
  := by
  constructor
  case only =>
    intro i f operation hf hoperation
    apply (hsound i f hf).cancellation operation hoperation
  case permanent =>
    intro htoken actions
    apply cancelled_run htoken
  case turn =>
    intro htoken i f hf hwaiting
    simp only [Service.step, hf]
    rw [htoken, f.turn_of_not_isSettled hwaiting]
  case waiting =>
    intro htoken i f hf hwaiting actions
    apply getElem?_run_of_not_isSettled hsound htoken hf hwaiting
  case later =>
    intro htoken r actions
    apply getElem?_run_ask hsound htoken
  case asked =>
    intro htoken actions
    apply asked_run htoken
  case settled =>
    intro i f hf hsettled actions
    apply getElem?_run_of_isSettled hsound hf hsettled

end Service

/-- Cancellation wins and is permanent. In every run of a pool in use the token is cancelled
exactly when it was at the beginning or something has reached it since, and from then on requests
that wait are cancelled at their next turn, requests that are made later too, and no backend is
asked, while a request that is settled stays as it is. Asking a pool over time is such a run, and
under a plan to cancel the token it is cancelled exactly when it runs late. -/
theorem Pool.cancellation_wins (p : Pool) :
  (∀ token asked actions,
    (((Service.idle token asked).run p actions).token.cancelled = true ↔
      token.cancelled = true ∨ ∃ a ∈ actions, token.IsReached a) ∧
    ((Service.idle token asked).run p actions).Cancellation p) ∧
  (∀ s : Session, s.Fits p → ∀ r flights,
    Service.Leads p ⟨s.token, s.asked, flights⟩
      ⟨(p.ask r s).2.token, (p.ask r s).2.asked, flights ++ [.returned r (p.ask r s).1]⟩) ∧
  ∀ (s : Session) moment, s.token.cancelled = false → s.cancelAfter = some moment →
    ∀ r, p.FollowsPlan s moment r
  := by
  refine ⟨?_, ?_, ?_⟩
  · intro token asked actions
    constructor
    · apply Service.cancelled_run_iff
    · apply Service.Sound.cancellation
      apply Service.Sound.run
      apply Service.sound_idle
  · intro s hs r flights
    apply Pool.leads_ask hs
  · intro s moment htoken hplan r
    apply Pool.followsPlan p htoken hplan

/-- One of three backends answers after three milliseconds. The answer counts when the token is to
be cancelled a millisecond later. When it is to be cancelled at that very moment, the request is
cancelled, all attempts are given up, and later requests change nothing. -/
theorem Pool.cancellation_wins_threeBackends :
  let s := Session.fresh threeBackends .own
  (threeBackends.ask .finalityUpdate (s.cancelWithin 4)).1 = .ok none ∧
  threeBackends.ask .finalityUpdate (s.cancelWithin 3)
    = (.error (.cancelled .finalityUpdate),
      ⟨⟨.own, true, false⟩, some 0, 3, List.replicate 3 ⟨[.finalityUpdate], 1⟩⟩) ∧
  ∀ requests, threeBackends.after requests (threeBackends.ask .finalityUpdate (s.cancelWithin 3)).2
    = (threeBackends.ask .finalityUpdate (s.cancelWithin 3)).2
  := by
  intro s
  let silent : Arrival Request.finalityUpdate.Answer :=
    ⟨0, "silent", ⟨10, .error (.outage (.timedOut 10)), false⟩⟩
  let behind : Arrival Request.finalityUpdate.Answer := ⟨1, "behind", ⟨3, .ok none, true⟩⟩
  let broken : Arrival Request.finalityUpdate.Answer :=
    ⟨2, "broken", ⟨7, .error (.response .noFork), true⟩⟩
  have harrivals (moment : Nat) : threeBackends.arrivals (s.cancelWithin moment).traffic
      .finalityUpdate = [silent, behind, broken] := rfl
  have hplan (moment : Nat) : threeBackends.FollowsPlan (s.cancelWithin moment) moment
      .finalityUpdate := (cancellation_wins threeBackends).2.2 _ _ rfl rfl _
  have hmem (moment : Nat) : behind ∈ threeBackends.arrivals (s.cancelWithin moment).traffic
      .finalityUpdate := .tail _ (.head _)
  have hlate : threeBackends.RunsLate (s.cancelWithin 3) 3 .finalityUpdate := by
    refine ⟨⟨behind, hmem 3, by decide⟩, ?_⟩
    rw [harrivals]
    intro a ha hin
    simp only [List.mem_cons, List.not_mem_nil, or_false] at ha
    obtain rfl | rfl | rfl := ha
    all_goals exact absurd hin (by decide)
  have hkept : ∀ operation, (threeBackends.ask .finalityUpdate (s.cancelWithin 4)).1
      ≠ .error (.cancelled operation) := by
    intro operation h
    obtain ⟨e, he, -⟩ := ((hplan 4).cancelled_iff.mp ⟨_, h⟩).2 behind (hmem 4) (by decide)
    cases he
  have horder : threeBackends.CompletesIn (s.cancelWithin 4) .finalityUpdate
      [behind, broken, silent] := by
    constructor
    case perm =>
      show ([behind, broken] ++ [silent]).Perm ([silent] ++ [behind, broken])
      apply List.perm_append_comm
    case pairwise => simp [Arrival.Precedes, silent, behind, broken]
  obtain ⟨operation, hresult⟩ := (hplan 3).cancelled_iff.mpr hlate
  obtain ⟨rfl, hsession, hafter⟩ := (hplan 3).cancelled operation hresult
  refine ⟨?_, Prod.ext hresult hsession, hafter⟩
  rw [((hplan 4).otherwise hkept).1, ← horder.eq_inOrder]
  rfl

/-- The second of the three backends has answered when the token is cancelled, and the answer is
not looked at any more. -/
example :
  ((Service.idle (.fresh .own) fun _ => []).run Pool.threeBackends
    [.ask .finalityUpdate, .turn 0, .finish 0 1, .cancel, .turn 0]).flights
    = [.returned .finalityUpdate (.error (.cancelled .finalityUpdate))]
  := rfl

end BeaconLight

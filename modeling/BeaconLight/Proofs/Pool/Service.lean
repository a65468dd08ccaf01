import BeaconLight.Pool.Service
import BeaconLight.Proofs.Pool.Dispatch

/-!
# Runs of a pool in use

What one thing that happens does to a request is said once, by `Flight.after`, and a request that
was made stays at its index. From this follows what a whole run keeps: a request that is settled
stays as it is, and what it was settled with is an attempt of a backend of the pool, or a
cancellation of the token.
-/

namespace BeaconLight

namespace Flight

/-- The dispatch of the request is settled. -/
def IsSettled (f : Flight) : Prop :=
  ∃ result, f.dispatch = .settled result

/-- A request that has come to a result. -/
def returned (r : Request) (result : Except PoolError r.Answer) : Flight :=
  ⟨r, .empty, .settled result⟩

/-- The request when it has been cancelled, without its attempts and failures. -/
def cancelled (f : Flight) : Flight :=
  returned f.request (.error (.cancelled f.request.operation))

theorem not_isSettled_new (p : Pool) (r : Request) :
  ¬ (new p r).IsSettled
  := by rintro ⟨result, ⟨⟩⟩

variable {p : Pool} {f : Flight} {asked : Asked}

theorem turn_of_isSettled (h : f.IsSettled) (cancelled : Bool) :
  f.turn p cancelled asked = (asked, f)
  := by
  obtain ⟨result, hresult⟩ := h
  rw [turn, hresult]

theorem turn_of_not_isSettled (h : ¬ f.IsSettled) :
  f.turn p true asked = (asked, f.cancelled)
  := by
  obtain ⟨r, line, dispatch⟩ := f
  cases dispatch with
  | settled result => exact absurd ⟨result, rfl⟩ h
  | waiting pending failures => rfl

/-- A turn of a request that waits, under a token that is not cancelled, polls and then looks at
what was found. -/
theorem turn_waiting {r : Request} (line : Line r.Answer) (pending : Nat)
    (failures : List Failure) :
  turn p false asked ⟨r, line, .waiting pending failures⟩ =
    let polled := Line.poll p.limit r line.unasked line.running line.ready asked
    (polled.asked, goOn r polled.line ((Dispatch.waiting pending failures).turn r.operation false
      (polled.found.map Arrival.completion)))
  := rfl

end Flight

namespace Token

/-- A token is cancelled by cancelling it, or the other one when they are not independent. -/
def IsReached (t : Token) : Action → Prop
  | .cancel => True
  | .cancelParent => t.link ≠ .own
  | _ => False

end Token

/-! ### One thing happens -/

/-- What comes of the request at an index when something happens. -/
def Flight.after (p : Pool) (s : Service) (i : Nat) (f : Flight) : Action → Flight
  | .turn j => if j = i then (f.turn p s.token.cancelled s.asked).2 else f
  | .finish j index => if j = i then f.finish index else f
  | .ask _ | .cancel | .cancelParent => f

namespace Service

variable {p : Pool} {s : Service} {i : Nat} {f : Flight}

/-- A request stays at its index, whatever happens. -/
theorem getElem?_step (h : s.flights[i]? = some f) (a : Action) :
  (s.step p a).flights[i]? = some (f.after p s i a)
  := by
  have hi : i < s.flights.length := (List.getElem?_eq_some_iff.mp h).1
  cases a with
  | ask r =>
    show (s.flights ++ [Flight.new p r])[i]? = _
    rw [List.getElem?_append_left hi, h]
    rfl
  | turn j =>
    rw [Flight.after]
    split
    case isTrue hj =>
      subst hj
      simp only [step, h]
      apply List.getElem?_set_self hi
    case isFalse hj =>
      rw [step]
      split
      · exact h
      · apply Eq.trans (List.getElem?_set_ne hj) h
  | finish j index =>
    show (s.flights.modify j _)[i]? = _
    rw [List.getElem?_modify, h, Flight.after]
    split
    all_goals rfl
  | cancel => exact h
  | cancelParent => exact h

/-- A request that is there after something happened was there before, or was made. -/
theorem exists_of_getElem?_step {a : Action} (h : (s.step p a).flights[i]? = some f) :
  (∃ g, s.flights[i]? = some g ∧ f = g.after p s i a) ∨
  ∃ r, a = .ask r ∧ i = s.flights.length ∧ f = .new p r
  := by
  cases hi : s.flights[i]? with
  | some g =>
    left
    rw [getElem?_step hi] at h
    exact ⟨g, rfl, (Option.some.inj h).symm⟩
  | none =>
    right
    have hlength : s.flights.length ≤ i := List.getElem?_eq_none_iff.mp hi
    cases a with
    | ask r =>
      have hflight : (s.flights ++ [Flight.new p r])[i]? = some f := h
      rw [List.getElem?_append_right hlength, List.getElem?_singleton] at hflight
      split at hflight
      case isTrue hindex =>
        have hlast : i = s.flights.length := by omega
        exact ⟨r, rfl, hlast, (Option.some.inj hflight).symm⟩
      case isFalse => cases hflight
    | turn j =>
      rw [step] at h
      split at h
      · cases hi.symm.trans h
      · have hset : (s.flights.set j _)[i]? = some f := h
        rw [List.getElem?_eq_none_iff.mpr (by rwa [List.length_set])] at hset
        cases hset
    | finish j index =>
      have hmodify : (s.flights.modify j _)[i]? = some f := h
      rw [List.getElem?_modify, hi] at hmodify
      cases hmodify
    | cancel => cases hi.symm.trans h
    | cancelParent => cases hi.symm.trans h

/-! ### What the token and the backends see -/

/-- Only cancelling touches the token. -/
theorem token_step (s : Service) (a : Action) :
  (s.step p a).token =
    match a with
    | .cancel => s.token.cancel
    | .cancelParent => s.token.cancelParent
    | _ => s.token
  := by
  cases a with
  | turn j =>
    rw [step]
    split
    all_goals rfl
  | _ => rfl

/-- Whatever happens, the links of the token stay, and it is cancelled when it is reached. -/
theorem token_step_iff (s : Service) (a : Action) :
  (s.step p a).token.link = s.token.link ∧
  ((s.step p a).token.cancelled = true ↔ s.token.cancelled = true ∨ s.token.IsReached a)
  := by
  rw [token_step]
  cases a with
  | cancel => simp [Token.cancel, Token.IsReached]
  | cancelParent => simp [Token.cancelParent, Token.IsReached]
  | _ => simp [Token.IsReached]

theorem cancelled_step (h : s.token.cancelled = true) (a : Action) :
  (s.step p a).token.cancelled = true
  := (token_step_iff s a).2.mpr (.inl h)

/-- Under a cancelled token no backend is asked, whatever happens. -/
theorem asked_step (h : s.token.cancelled = true) (a : Action) :
  (s.step p a).asked = s.asked
  := by
  cases a with
  | turn j =>
    rw [step]
    split
    case h_1 => rfl
    case h_2 f hf =>
      by_cases hsettled : f.IsSettled
      · rw [f.turn_of_isSettled hsettled]
      · rw [h, f.turn_of_not_isSettled hsettled]
  | _ => rfl

/-- Every run keeps what is kept whatever happens. -/
theorem run_keeps {P : Service → Prop} (hstep : ∀ s a, P s → P (s.step p a)) (h : P s)
    (actions : List Action) :
  P (s.run p actions)
  := by
  induction actions generalizing s with
  | nil => exact h
  | cons a rest ih => apply ih (hstep s a h)

end Service

/-! ### What a request keeps -/

/-- A backend of the pool makes the attempt for the request, after some that it has got. -/
def Pool.Attempts (p : Pool) (r : Request) (a : Arrival r.Answer) : Prop :=
  ∃ b ∈ p.backends, ∃ place asked, a = b.arrival place p.limit asked r

/-- The attempts of a line are those of backends of the pool. -/
structure Line.IsOf (p : Pool) (r : Request) (line : Line r.Answer) : Prop where
  unasked : ∀ entry ∈ line.unasked, entry.1 ∈ p.backends
  running : ∀ a ∈ line.running, p.Attempts r a
  ready : ∀ a ∈ line.ready, p.Attempts r a

theorem Line.isOf_empty (p : Pool) (r : Request) :
  IsOf p r .empty
  := by
  constructor
  all_goals
    intro x hx
    cases hx

/-- What polling finds is an attempt of a backend of the pool, and so is what it leaves. -/
theorem Line.IsOf.poll {p : Pool} {r : Request} {unasked : List (Backend × Nat)}
    {running ready : List (Arrival r.Answer)} (h : IsOf p r ⟨unasked, running, ready⟩)
    (asked : Asked) :
  (∀ a, (Line.poll p.limit r unasked running ready asked).found = some a → p.Attempts r a) ∧
  IsOf p r (Line.poll p.limit r unasked running ready asked).line
  := by
  induction unasked generalizing running asked with
  | nil =>
    cases ready with
    | nil => exact ⟨nofun, h⟩
    | cons a ready =>
      obtain ⟨ha, hready⟩ := List.forall_mem_cons.mp h.ready
      constructor
      · rintro _ ⟨⟩
        exact ha
      · exact ⟨h.unasked, h.running, hready⟩
  | cons entry rest ih =>
    obtain ⟨b, place⟩ := entry
    obtain ⟨hb, hrest⟩ := List.forall_mem_cons.mp h.unasked
    have ha : p.Attempts r (b.arrival place p.limit asked r) := ⟨b, hb, place, asked, rfl⟩
    rw [Line.poll]
    split
    case isTrue =>
      constructor
      · rintro _ ⟨⟩
        exact ha
      · exact ⟨hrest, h.running, h.ready⟩
    case isFalse =>
      apply ih
      refine ⟨hrest, ?_, h.ready⟩
      intro other hother
      rcases List.mem_append.mp hother with hother | hother
      · apply h.running other hother
      · obtain rfl := List.mem_singleton.mp hother
        apply ha

/-- An attempt that completes stays one of a backend of the pool. -/
theorem Line.IsOf.finish {p : Pool} {r : Request} {line : Line r.Answer} (h : IsOf p r line)
    (index : Nat) :
  IsOf p r (line.finish index)
  := by
  rw [Line.finish]
  split
  case h_1 => exact h
  case h_2 a ha =>
    refine ⟨h.unasked, ?_, ?_⟩
    · intro other hother
      apply h.running other (List.mem_of_mem_eraseIdx hother)
    · intro other hother
      rcases List.mem_append.mp hother with hother | hother
      · apply h.ready other hother
      · obtain rfl := List.mem_singleton.mp hother
        apply h.running other (List.mem_of_getElem? ha)

/-- What a request keeps while the token of its pool is cancelled or not. -/
structure Flight.Sound (p : Pool) (cancelled : Bool) (f : Flight) : Prop where
  line : Line.IsOf p f.request f.line
  /-- A request that is settled has no attempts left. -/
  dropped : f.IsSettled → f.line = .empty
  /-- It is answered with what an attempt ended in. -/
  answer : ∀ value, f.dispatch = .settled (.ok value) →
    ∃ a, p.Attempts f.request a ∧ a.ending.outcome = .ok value
  /-- It is refused for an attempt that failed with no outage. -/
  refusal : ∀ failure, f.dispatch = .settled (.error (.refused failure)) →
    ∃ a, p.Attempts f.request a ∧ a.completion = failure.completion ∧
      failure.error.isConnectivity = false
  /-- It is cancelled by name, and only under a cancelled token. -/
  cancellation : ∀ operation, f.dispatch = .settled (.error (.cancelled operation)) →
    operation = f.request.operation ∧ cancelled = true

namespace Flight.Sound

variable {p : Pool} {f : Flight} {cancelled : Bool}

theorem of_waiting {r : Request} {line : Line r.Answer} (hline : Line.IsOf p r line)
    (pending : Nat) (failures : List Failure) :
  Sound p cancelled ⟨r, line, .waiting pending failures⟩
  := by
  refine ⟨hline, ?_, nofun, nofun, nofun⟩
  rintro ⟨result, ⟨⟩⟩

theorem new (p : Pool) (cancelled : Bool) (r : Request) :
  Sound p cancelled (.new p r)
  := by
  apply of_waiting
  refine ⟨?_, nofun, nofun⟩
  intro entry hentry
  apply List.fst_mem_of_mem_zipIdx hentry

theorem mono {cancelled' : Bool} (h : f.Sound p cancelled)
    (hcancelled : cancelled = true → cancelled' = true) :
  f.Sound p cancelled'
  := by
  refine ⟨h.line, h.dropped, h.answer, h.refusal, ?_⟩
  intro operation hoperation
  obtain ⟨hname, htoken⟩ := h.cancellation operation hoperation
  exact ⟨hname, hcancelled htoken⟩

theorem of_cancelled (p : Pool) (f : Flight) :
  Sound p true f.cancelled
  := by
  refine ⟨Line.isOf_empty p _, fun _ => rfl, nofun, nofun, ?_⟩
  rintro operation ⟨⟩
  exact ⟨rfl, rfl⟩

/-- A request that is settled by an attempt is sound. -/
theorem of_decision {r : Request} {a : Arrival r.Answer} (ha : p.Attempts r a)
    (hdecides : ¬ a.completion.IsOutage) :
  Sound p cancelled (returned r a.completion.decision)
  := by
  refine ⟨Line.isOf_empty p r, fun _ => rfl, ?_, ?_, ?_⟩
  · intro value hvalue
    exact ⟨a, ha, Completion.outcome_of_decision (Dispatch.settled.inj hvalue)⟩
  · intro failure hfailure
    exact ⟨a, ha, Completion.eq_of_decision hdecides (Dispatch.settled.inj hfailure)⟩
  · intro operation hoperation
    obtain ⟨f, hf⟩ := Completion.exists_refused_of_decision (Dispatch.settled.inj hoperation)
    cases hf

/-- A turn keeps a request sound. -/
theorem turn (h : f.Sound p cancelled) (asked : Asked) :
  (f.turn p cancelled asked).2.Sound p cancelled
  := by
  by_cases hsettled : f.IsSettled
  · rw [f.turn_of_isSettled hsettled]
    exact h
  · cases cancelled with
    | true =>
      rw [f.turn_of_not_isSettled hsettled]
      apply of_cancelled
    | false =>
      obtain ⟨r, line, dispatch⟩ := f
      cases dispatch with
      | settled result => exact absurd ⟨result, rfl⟩ hsettled
      | waiting pending failures =>
        obtain ⟨hfound, hline⟩ := h.line.poll asked
        have hcases := Dispatch.turn_waiting_cases r.operation pending failures
          ((Line.poll p.limit r line.unasked line.running line.ready asked).found.map
            Arrival.completion)
        rw [turn_waiting]
        dsimp only
        rcases hcases with ⟨pending', failures', hturn⟩ | hturn | ⟨c, hc, hdecides, hturn⟩
        · rw [hturn]
          apply of_waiting hline
        · rw [hturn]
          exact ⟨Line.isOf_empty p _, fun _ => rfl, nofun, nofun, nofun⟩
        · rw [hturn]
          obtain ⟨a, ha, rfl⟩ := Option.map_eq_some_iff.mp hc
          apply of_decision (hfound a ha) hdecides

theorem finish (h : f.Sound p cancelled) (index : Nat) :
  (f.finish index).Sound p cancelled
  := by
  refine ⟨h.line.finish index, ?_, h.answer, h.refusal, h.cancellation⟩
  intro hsettled
  show f.line.finish index = .empty
  rw [h.dropped hsettled]
  rfl

end Flight.Sound

namespace Service

variable {p : Pool} {s : Service}

/-- All requests of a pool in use are sound. -/
def Sound (p : Pool) (s : Service) : Prop :=
  ∀ (i : Nat) (f : Flight), s.flights[i]? = some f → f.Sound p s.token.cancelled

theorem sound_idle (p : Pool) (token : Token) (asked : Asked) :
  (idle token asked).Sound p
  := by
  intro i f hf
  cases hf

/-- Whatever happens keeps the requests sound. -/
theorem Sound.step (h : s.Sound p) (a : Action) :
  (s.step p a).Sound p
  := by
  intro i f hf
  have hcancelled (hs : s.token.cancelled = true) : (s.step p a).token.cancelled = true :=
    cancelled_step hs a
  rcases exists_of_getElem?_step hf with ⟨g, hg, rfl⟩ | ⟨r, -, -, rfl⟩
  · apply Flight.Sound.mono _ hcancelled
    have hsound := h i g hg
    cases a with
    | turn j =>
      rw [Flight.after]
      split
      · apply hsound.turn
      · exact hsound
    | finish j index =>
      rw [Flight.after]
      split
      · apply hsound.finish
      · exact hsound
    | _ => exact hsound
  · apply Flight.Sound.new

/-- Every run keeps the requests sound. -/
theorem Sound.run (h : s.Sound p) (actions : List Action) :
  (s.run p actions).Sound p
  := by
  apply run_keeps _ h
  intro t a ht
  apply ht.step

end Service

end BeaconLight

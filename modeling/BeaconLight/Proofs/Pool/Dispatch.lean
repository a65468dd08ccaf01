import BeaconLight.Pool.Dispatch

/-!
# What decides a request

The attempts of a request complete in some order, and the first that does not fail with an
outage decides: what completes behind it is not looked at. When all of them fail with
outages, the request fails with all of these failures in the order of completion.
-/

namespace BeaconLight

variable {α : Type}

namespace Completion

/-- The attempt failed with an outage. -/
def IsOutage (c : Completion α) : Prop :=
  ∃ e, c.outcome = .error e ∧ e.isConnectivity = true

/-- What the attempt makes of the request when it decides. -/
def decision (c : Completion α) : Except PoolError α :=
  match c.outcome with
  | .ok value => .ok value
  | .error e => .error (.refused ⟨c.backend, e⟩)

end Completion

/-- The attempt that failed. -/
def Failure.completion (f : Failure) : Completion α :=
  ⟨f.backend, .error f.error⟩

namespace Completion

variable {c : Completion α}

theorem IsOutage.exists_failure (h : c.IsOutage) :
  ∃ f : Failure, c = f.completion ∧ f.error.isConnectivity = true
  := by
  obtain ⟨backend, outcome⟩ := c
  obtain ⟨e, rfl, he⟩ := h
  exact ⟨⟨backend, e⟩, rfl, he⟩

/-- An attempt decides for data when it ended in them. -/
theorem outcome_of_decision {value : α} (h : c.decision = .ok value) :
  c.outcome = .ok value
  := by
  unfold decision at h
  split at h
  case h_1 houtcome =>
    cases h
    exact houtcome
  case h_2 => cases h

/-- An attempt refuses with the error that it ended in. -/
theorem eq_of_decision (hc : ¬ c.IsOutage) {f : Failure} (h : c.decision = .error (.refused f)) :
  c = f.completion ∧ f.error.isConnectivity = false
  := by
  obtain ⟨backend, outcome⟩ := c
  cases outcome with
  | ok value => cases h
  | error e =>
    cases h
    refine ⟨rfl, Bool.eq_false_iff.mpr ?_⟩
    intro he
    apply hc ⟨e, rfl, he⟩

/-- An attempt that decides for an error refuses the request. -/
theorem exists_refused_of_decision {e : PoolError} (h : c.decision = .error e) :
  ∃ f, e = .refused f
  := by
  unfold decision at h
  split at h
  case h_1 => cases h
  case h_2 =>
    cases h
    exact ⟨_, rfl⟩

end Completion

/-- Attempts that failed with outages are those of failures with outages. -/
theorem exists_failures {completions : List (Completion α)}
    (h : ∀ c ∈ completions, c.IsOutage) :
  ∃ failures : List Failure, completions = failures.map Failure.completion ∧
    ∀ f ∈ failures, f.error.isConnectivity = true
  := by
  induction completions with
  | nil => exact ⟨[], rfl, by simp⟩
  | cons c rest ih =>
    obtain ⟨hc, hrest⟩ := List.forall_mem_cons.mp h
    obtain ⟨f, rfl, hf⟩ := hc.exists_failure
    obtain ⟨failures, rfl, hfailures⟩ := ih hrest
    exact ⟨f :: failures, rfl, List.forall_mem_cons.mpr ⟨hf, hfailures⟩⟩

/-- Either all attempts failed with outages or there is a first that did not. -/
theorem outages_or_first (completions : List (Completion α)) :
  (∀ c ∈ completions, c.IsOutage) ∨
    ∃ before c after, completions = before ++ c :: after ∧ (∀ b ∈ before, b.IsOutage) ∧
      ¬ c.IsOutage
  := by
  induction completions with
  | nil =>
    left
    intro c hc
    cases hc
  | cons c rest ih =>
    by_cases hc : c.IsOutage
    · rcases ih with hrest | ⟨before, first, after, rfl, hbefore, hfirst⟩
      · left
        exact List.forall_mem_cons.mpr ⟨hc, hrest⟩
      · right
        exact ⟨c :: before, first, after, rfl, List.forall_mem_cons.mpr ⟨hc, hbefore⟩, hfirst⟩
    · right
      refine ⟨[], c, rest, rfl, ?_, hc⟩
      intro b hb
      cases hb

namespace Dispatch

variable (operation : Operation)

/-! ### One turn -/

/-- A failure with an outage is kept, and the dispatch goes on waiting. -/
theorem turn_outage {f : Failure} (hf : f.error.isConnectivity = true) (pending : Nat)
    (failures : List Failure) :
  (waiting (pending + 1) failures : Dispatch α).turn operation false (some f.completion)
    = waiting pending (failures ++ [f])
  := by
  show take pending failures f.completion = _
  rw [take, Failure.completion]
  dsimp only
  rw [if_pos hf]

/-- An attempt that did not fail with an outage settles the dispatch. -/
theorem turn_decisive {c : Completion α} (hc : ¬ c.IsOutage) (pending : Nat)
    (failures : List Failure) :
  (waiting (pending + 1) failures).turn operation false (some c) = settled c.decision
  := by
  show take pending failures c = _
  obtain ⟨backend, outcome⟩ := c
  cases outcome with
  | ok value => rfl
  | error e =>
    have he : ¬ e.isConnectivity = true := fun he => hc ⟨e, rfl, he⟩
    rw [take]
    dsimp only
    rw [if_neg he]
    rfl

/-- A turn that looks at an attempt keeps it as a failure with an outage, or is settled by it. -/
theorem turn_some_cases (pending : Nat) (failures : List Failure) (c : Completion α) :
  (∃ f : Failure,
    c = f.completion ∧
    (waiting (pending + 1) failures).turn operation false (some c)
      = waiting pending (failures ++ [f])) ∨
  ¬ c.IsOutage ∧
    (waiting (pending + 1) failures).turn operation false (some c) = settled c.decision
  := by
  by_cases hc : c.IsOutage
  · left
    obtain ⟨f, rfl, hf⟩ := hc.exists_failure
    exact ⟨f, rfl, turn_outage operation hf pending failures⟩
  · right
    exact ⟨hc, turn_decisive operation hc pending failures⟩

/-- A turn of a dispatch that is not cancelled leaves it waiting, ends it with the failures so far,
or settles it by the attempt that is looked at. -/
theorem turn_waiting_cases (pending : Nat) (failures : List Failure)
    (found : Option (Completion α)) :
  (∃ pending' failures',
    (waiting pending failures).turn operation false found = waiting pending' failures') ∨
  (waiting pending failures).turn operation false found
    = settled (.error (.exhausted operation failures)) ∨
  ∃ c, found = some c ∧ ¬ c.IsOutage ∧
    (waiting pending failures).turn operation false found = settled c.decision
  := by
  cases pending with
  | zero =>
    right; left
    rfl
  | succ pending =>
    cases found with
    | none =>
      left
      exact ⟨pending + 1, failures, rfl⟩
    | some c =>
      rcases turn_some_cases operation pending failures c with ⟨f, -, hturn⟩ | ⟨hc, hturn⟩
      · left
        exact ⟨pending, _, hturn⟩
      · right; right
        exact ⟨c, rfl, hc, hturn⟩

/-! ### A whole run -/

theorem run_append (d : Dispatch α) (completions later : List (Completion α)) :
  d.run operation (completions ++ later) = (d.run operation completions).run operation later
  := List.foldl_append

theorem run_settled (result : Except PoolError α) (completions : List (Completion α)) :
  (settled result).run operation completions = settled result
  := by
  induction completions with
  | nil => rfl
  | cons c rest ih => exact ih

/-- Failures with outages are kept in the order in which they come. -/
theorem run_outages {failures : List Failure} (h : ∀ f ∈ failures, f.error.isConnectivity = true)
    (pending : Nat) (before : List Failure) :
  (waiting (pending + failures.length) before : Dispatch α).run operation
      (failures.map Failure.completion)
    = waiting pending (before ++ failures)
  := by
  induction failures generalizing before with
  | nil =>
    rw [List.append_nil]
    rfl
  | cons f rest ih =>
    obtain ⟨hf, hrest⟩ := List.forall_mem_cons.mp h
    rw [List.map_cons, run, List.foldl_cons, List.length_cons, ← Nat.add_assoc,
      turn_outage operation hf]
    apply Eq.trans (ih hrest (before ++ [f]))
    rw [List.append_assoc]
    rfl

/-- The first attempt that did not fail with an outage settles the dispatch, which then stays
as it is. -/
theorem run_decisive {before : List (Completion α)} {c : Completion α}
    (hbefore : ∀ b ∈ before, b.IsOutage) (hc : ¬ c.IsOutage) (after : List (Completion α))
    {backends : Nat} (hlength : before.length < backends) :
  (start backends).run operation (before ++ c :: after) = settled c.decision
  := by
  obtain ⟨failures, rfl, hfailures⟩ := exists_failures hbefore
  rw [List.length_map] at hlength
  obtain ⟨rest, rfl⟩ := Nat.exists_eq_add_of_lt hlength
  have hpending : failures.length + rest + 1 = rest + 1 + failures.length := by omega
  rw [run_append, start, hpending, run_outages operation hfailures, run, List.foldl_cons,
    turn_decisive operation hc]
  apply run_settled

/-! ### The result -/

/-- The first attempt that did not fail with an outage decides, whatever completes behind
it. -/
theorem verdict_decisive {before : List (Completion α)} {c : Completion α}
    (hbefore : ∀ b ∈ before, b.IsOutage) (hc : ¬ c.IsOutage) (after : List (Completion α)) :
  verdict operation (before ++ c :: after) = c.decision
  := by
  have hlength : before.length < (before ++ c :: after).length := by
    rw [List.length_append, List.length_cons]
    omega
  rw [verdict, run_decisive operation hbefore hc after hlength]
  rfl

/-- When all attempts fail with outages, the request fails with these failures. -/
theorem verdict_outages {failures : List Failure}
    (h : ∀ f ∈ failures, f.error.isConnectivity = true) :
  verdict operation (failures.map Failure.completion : List (Completion α))
    = .error (.exhausted operation failures)
  := by
  have hrun := run_outages (α := α) operation h 0 []
  rw [Nat.zero_add] at hrun
  rw [verdict, List.length_map, start, hrun]
  rfl

/-- Attempts alone cancel no request. -/
theorem verdict_ne_cancelled (completions : List (Completion α)) (operation' : Operation) :
  verdict operation completions ≠ .error (.cancelled operation')
  := by
  rcases outages_or_first completions with houtages | ⟨before, c, after, rfl, hbefore, hc⟩
  · obtain ⟨failures, rfl, hfailures⟩ := exists_failures houtages
    rw [verdict_outages operation hfailures]
    nofun
  · rw [verdict_decisive operation hbefore hc]
    intro h
    obtain ⟨f, hf⟩ := Completion.exists_refused_of_decision h
    cases hf

/-- What a request comes to when its attempts complete in an order: the first that did not
fail with an outage decides, and otherwise all the failures are reported in that order. -/
structure FirstDecides (order : List (Completion α)) (result : Except PoolError α) : Prop where
  /-- The first attempt that did not fail with an outage has data, and that is the answer. -/
  answer : ∀ before c after value, order = before ++ c :: after →
    (∀ b ∈ before, b.IsOutage) → c.outcome = .ok value → result = .ok value
  /-- The first attempt that did not fail with an outage failed, and that is the error. -/
  refusal : ∀ before c after e, order = before ++ c :: after →
    (∀ b ∈ before, b.IsOutage) → c.outcome = .error e → e.isConnectivity = false →
    result = .error (.refused ⟨c.backend, e⟩)
  /-- The dispatch is settled before the attempts behind the first are looked at. -/
  settled_run : ∀ before c after, order = before ++ c :: after → (∀ b ∈ before, b.IsOutage) →
    ¬ c.IsOutage → (start order.length).run operation (before ++ [c]) = settled result
  /-- All backends failed exactly when each attempt failed with an outage. -/
  exhausted_iff : (∃ failures, result = .error (.exhausted operation failures)) ↔
    ∀ c ∈ order, c.IsOutage
  /-- The failures of all backends are their attempts in order. -/
  map_completion : ∀ failures, result = .error (.exhausted operation failures) →
    failures.map Failure.completion = order

theorem decision_ne_exhausted (c : Completion α) (failures : List Failure) :
  c.decision ≠ .error (.exhausted operation failures)
  := by
  intro h
  obtain ⟨f, hf⟩ := Completion.exists_refused_of_decision h
  cases hf

/-- The first decisive attempt decides a request, in whatever order its attempts complete. -/
theorem firstDecides_verdict (order : List (Completion α)) :
  FirstDecides operation order (verdict operation order)
  := by
  constructor
  case answer =>
    rintro before c after value rfl hbefore houtcome
    have hc : ¬ c.IsOutage := by
      rintro ⟨e, he, -⟩
      rw [houtcome] at he
      cases he
    rw [verdict_decisive operation hbefore hc, Completion.decision, houtcome]
  case refusal =>
    rintro before c after e rfl hbefore houtcome hconnectivity
    have hc : ¬ c.IsOutage := by
      rintro ⟨e', he', hconnectivity'⟩
      rw [houtcome] at he'
      cases he'
      rw [hconnectivity] at hconnectivity'
      cases hconnectivity'
    rw [verdict_decisive operation hbefore hc, Completion.decision, houtcome]
  case settled_run =>
    rintro before c after rfl hbefore hc
    rw [verdict_decisive operation hbefore hc]
    apply run_decisive operation hbefore hc
    rw [List.length_append, List.length_cons]
    omega
  case exhausted_iff =>
    constructor
    · rintro ⟨failures, hresult⟩
      rcases outages_or_first order with houtages | ⟨before, c, after, rfl, hbefore, hc⟩
      · exact houtages
      · rw [verdict_decisive operation hbefore hc] at hresult
        exact absurd hresult (decision_ne_exhausted operation c failures)
    · intro houtages
      obtain ⟨failures, rfl, hfailures⟩ := exists_failures houtages
      exact ⟨failures, verdict_outages operation hfailures⟩
  case map_completion =>
    intro failures hresult
    rcases outages_or_first order with houtages | ⟨before, c, after, rfl, hbefore, hc⟩
    · obtain ⟨failures', rfl, hfailures'⟩ := exists_failures houtages
      rw [verdict_outages operation hfailures'] at hresult
      cases hresult
      rfl
    · rw [verdict_decisive operation hbefore hc] at hresult
      exact absurd hresult (decision_ne_exhausted operation c failures)

end Dispatch

end BeaconLight

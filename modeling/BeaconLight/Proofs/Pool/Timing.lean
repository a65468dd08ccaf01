import BeaconLight.Proofs.Pool.Order

/-!
# What timing decides

The attempts of a request complete in some order, of which any decisive one can be the first. So
timing changes the class of the result exactly when one attempt has an answer and another was
refused. Otherwise one answer is enough wherever it completes, one refusal is enough likewise, and
outages alone are reported in the order in which they come.

The orders are those of time: asking a pool is one of them, and each of them is that of asking the
pool when its backends take other times for the same outcomes.
-/

namespace BeaconLight

variable {α : Type}

/-- The classes of the results of a request. -/
inductive ResultClass
  | answered
  | refused
  | exhausted
  | cancelled
  | noBackends
  deriving DecidableEq

/-- The class of a result. -/
def ResultClass.of : Except PoolError α → ResultClass
  | .ok _ => .answered
  | .error (.refused _) => .refused
  | .error (.exhausted _ _) => .exhausted
  | .error (.cancelled _) => .cancelled
  | .error .noBackends => .noBackends

/-! ### Decisive attempts -/

namespace Completion

variable {c : Completion α}

/-- The attempt has an answer. -/
def IsAnswer (c : Completion α) : Prop :=
  ∃ value, c.outcome = .ok value

/-- The attempt failed with an error that is no outage. -/
def IsRefusal (c : Completion α) : Prop :=
  ∃ e, c.outcome = .error e ∧ e.isConnectivity = false

/-- An attempt that did not fail with an outage has an answer or was refused. -/
theorem not_isOutage_iff :
  ¬ c.IsOutage ↔ c.IsAnswer ∨ c.IsRefusal
  := by
  constructor
  · intro hc
    cases houtcome : c.outcome with
    | ok value =>
      left
      exact ⟨value, houtcome⟩
    | error e =>
      right
      exact ⟨e, houtcome, Bool.eq_false_iff.mpr fun he => hc ⟨e, houtcome, he⟩⟩
  · rintro (⟨value, hvalue⟩ | ⟨e, he, hconnectivity⟩) ⟨e', he', hconnectivity'⟩
    · rw [hvalue] at he'
      cases he'
    · obtain rfl := Except.error.inj (he.symm.trans he')
      rw [hconnectivity] at hconnectivity'
      cases hconnectivity'

theorem decision_of_ok {value : α} (h : c.outcome = .ok value) :
  c.decision = .ok value
  := by
  rw [decision, h]

theorem decision_of_error {e : NodeError} (h : c.outcome = .error e) :
  c.decision = .error (.refused ⟨c.backend, e⟩)
  := by
  rw [decision, h]

end Completion

/-- A failure is told from others by its attempt. -/
theorem Failure.completion_injective :
  Function.Injective (Failure.completion : Failure → Completion α)
  := by
  rintro ⟨backend, e⟩ ⟨backend', e'⟩ h
  cases h
  rfl

/-! ### Orders of completion -/

namespace Dispatch

variable (operation : Operation) {attempts order : List (Completion α)}

/-- Unless all attempts failed with outages, one that did not decides the request, whatever the
order is. -/
theorem exists_verdict_eq_decision (horder : order.Perm attempts)
    (h : ∃ c ∈ attempts, ¬ c.IsOutage) :
  ∃ c ∈ attempts, ¬ c.IsOutage ∧ verdict operation order = c.decision
  := by
  rcases outages_or_first order with houtages | ⟨before, c, after, rfl, hbefore, hc⟩
  · obtain ⟨c, hmem, hc⟩ := h
    exact absurd (houtages c (horder.mem_iff.mpr hmem)) hc
  · have hmem : c ∈ before ++ c :: after := List.mem_append_right _ List.mem_cons_self
    exact ⟨c, horder.mem_iff.mp hmem, hc, verdict_decisive operation hbefore hc after⟩

/-- Each attempt that did not fail with an outage decides the request when it completes first. -/
theorem exists_perm_verdict_eq_decision {c : Completion α} (hmem : c ∈ attempts)
    (hc : ¬ c.IsOutage) :
  ∃ order : List (Completion α), order.Perm attempts ∧ verdict operation order = c.decision
  := by
  obtain ⟨before, after, rfl⟩ := List.append_of_mem hmem
  refine ⟨c :: (before ++ after), List.perm_middle.symm, ?_⟩
  exact verdict_decisive operation (List.forall_mem_nil _) hc (before ++ after)

/-- What timing changes in the result of a request, and what it does not. -/
structure Timing (attempts : List (Completion α)) : Prop where
  /-- The class of the result is the same in all orders exactly when no answer races with a
  refusal. -/
  class_eq_iff : (∀ order order' : List (Completion α), order.Perm attempts →
      order'.Perm attempts →
      ResultClass.of (verdict operation order) = ResultClass.of (verdict operation order')) ↔
    ¬ ((∃ c ∈ attempts, c.IsAnswer) ∧ ∃ c ∈ attempts, c.IsRefusal)
  /-- With an answer and no refusal, one of the answers is the result. -/
  answered : (∃ c ∈ attempts, c.IsAnswer) → (¬ ∃ c ∈ attempts, c.IsRefusal) →
    ∀ order : List (Completion α), order.Perm attempts →
      ∃ c ∈ attempts, ∃ value, c.outcome = .ok value ∧ verdict operation order = .ok value
  /-- With a refusal and no answer, one of the refusals is the result, with its own backend. -/
  refused : (∃ c ∈ attempts, c.IsRefusal) → (¬ ∃ c ∈ attempts, c.IsAnswer) →
    ∀ order : List (Completion α), order.Perm attempts →
      ∃ c ∈ attempts, ∃ e, c.outcome = .error e ∧ e.isConnectivity = false ∧
        verdict operation order = .error (.refused ⟨c.backend, e⟩)
  /-- With outages alone, the same failures are reported in some order. -/
  exhausted : (∀ c ∈ attempts, c.IsOutage) →
    ∃ failures : List Failure, failures.map Failure.completion = attempts ∧
      ∀ order : List (Completion α), order.Perm attempts →
        ∃ reported : List Failure, reported.Perm failures ∧
          verdict operation order = .error (.exhausted operation reported)

/-- With an answer and no refusal, one of the answers is the result. -/
theorem verdict_of_no_refusal (hanswer : ∃ c ∈ attempts, c.IsAnswer)
    (hrefusal : ¬ ∃ c ∈ attempts, c.IsRefusal) (horder : order.Perm attempts) :
  ∃ c ∈ attempts, ∃ value, c.outcome = .ok value ∧ verdict operation order = .ok value
  := by
  obtain ⟨first, hfirst, hvalue⟩ := hanswer
  obtain ⟨c, hmem, hc, hverdict⟩ := exists_verdict_eq_decision operation horder
    ⟨first, hfirst, Completion.not_isOutage_iff.mpr (.inl hvalue)⟩
  rcases Completion.not_isOutage_iff.mp hc with ⟨value, hvalue⟩ | hc
  · exact ⟨c, hmem, value, hvalue, hverdict.trans (Completion.decision_of_ok hvalue)⟩
  · exact absurd ⟨c, hmem, hc⟩ hrefusal

/-- With a refusal and no answer, one of the refusals is the result. -/
theorem verdict_of_no_answer (hrefusal : ∃ c ∈ attempts, c.IsRefusal)
    (hanswer : ¬ ∃ c ∈ attempts, c.IsAnswer) (horder : order.Perm attempts) :
  ∃ c ∈ attempts, ∃ e, c.outcome = .error e ∧ e.isConnectivity = false ∧
    verdict operation order = .error (.refused ⟨c.backend, e⟩)
  := by
  obtain ⟨first, hfirst, herror⟩ := hrefusal
  obtain ⟨c, hmem, hc, hverdict⟩ := exists_verdict_eq_decision operation horder
    ⟨first, hfirst, Completion.not_isOutage_iff.mpr (.inr herror)⟩
  rcases Completion.not_isOutage_iff.mp hc with hc | ⟨e, he, hconnectivity⟩
  · exact absurd ⟨c, hmem, hc⟩ hanswer
  · exact ⟨c, hmem, e, he, hconnectivity, hverdict.trans (Completion.decision_of_error he)⟩

/-- With outages alone, the same failures are reported in some order. -/
theorem verdict_of_outages {failures : List Failure}
    (h : ∀ c ∈ attempts, c.IsOutage) (hfailures : failures.map Failure.completion = attempts)
    (horder : order.Perm attempts) :
  ∃ reported : List Failure, reported.Perm failures ∧
    verdict operation order = .error (.exhausted operation reported)
  := by
  have houtages : ∀ c ∈ order, c.IsOutage := fun c hc => h c (horder.mem_iff.mp hc)
  obtain ⟨reported, rfl, hreported⟩ := exists_failures houtages
  refine ⟨reported, ?_, verdict_outages operation hreported⟩
  rw [← hfailures] at horder
  exact (List.map_perm_map_iff Failure.completion_injective).mp horder

/-- Without a race between an answer and a refusal, the class of the result is the same in all
orders. -/
theorem class_verdict_eq (h : ¬ ((∃ c ∈ attempts, c.IsAnswer) ∧ ∃ c ∈ attempts, c.IsRefusal))
    {order order' : List (Completion α)} (horder : order.Perm attempts)
    (horder' : order'.Perm attempts) :
  ResultClass.of (verdict operation order) = ResultClass.of (verdict operation order')
  := by
  by_cases hanswer : ∃ c ∈ attempts, c.IsAnswer
  · have hrefusal : ¬ ∃ c ∈ attempts, c.IsRefusal := fun hrefusal => h ⟨hanswer, hrefusal⟩
    obtain ⟨_, -, value, -, hverdict⟩ := verdict_of_no_refusal operation hanswer hrefusal horder
    obtain ⟨_, -, value', -, hverdict'⟩ := verdict_of_no_refusal operation hanswer hrefusal horder'
    rw [hverdict, hverdict']
    rfl
  · by_cases hrefusal : ∃ c ∈ attempts, c.IsRefusal
    · obtain ⟨_, -, e, -, -, hverdict⟩ := verdict_of_no_answer operation hrefusal hanswer horder
      obtain ⟨_, -, e', -, -, hverdict'⟩ := verdict_of_no_answer operation hrefusal hanswer horder'
      rw [hverdict, hverdict']
      rfl
    · have houtages : ∀ c ∈ attempts, c.IsOutage := by
        intro c hc
        by_contra houtage
        rcases Completion.not_isOutage_iff.mp houtage with h | h
        · exact hanswer ⟨c, hc, h⟩
        · exact hrefusal ⟨c, hc, h⟩
      obtain ⟨failures, hfailures, -⟩ := exists_failures houtages
      obtain ⟨_, -, hverdict⟩ := verdict_of_outages operation houtages hfailures.symm horder
      obtain ⟨_, -, hverdict'⟩ := verdict_of_outages operation houtages hfailures.symm horder'
      rw [hverdict, hverdict']
      rfl

/-- Timing changes the class of the result of a request exactly when an answer races with a
refusal. -/
theorem timing (attempts : List (Completion α)) :
  Timing operation attempts
  := by
  constructor
  case class_eq_iff =>
    constructor
    · rintro hclass ⟨⟨c, hc, value, hvalue⟩, c', hc', e, he, hconnectivity⟩
      obtain ⟨order, horder, hverdict⟩ := exists_perm_verdict_eq_decision operation hc
        (Completion.not_isOutage_iff.mpr (.inl ⟨value, hvalue⟩))
      obtain ⟨order', horder', hverdict'⟩ := exists_perm_verdict_eq_decision operation hc'
        (Completion.not_isOutage_iff.mpr (.inr ⟨e, he, hconnectivity⟩))
      have h := hclass order order' horder horder'
      rw [hverdict, hverdict', Completion.decision_of_ok hvalue,
        Completion.decision_of_error he] at h
      cases h
    · intro h order order' horder horder'
      exact class_verdict_eq operation h horder horder'
  case answered =>
    intro hanswer hrefusal order horder
    exact verdict_of_no_refusal operation hanswer hrefusal horder
  case refused =>
    intro hrefusal hanswer order horder
    exact verdict_of_no_answer operation hrefusal hanswer horder
  case exhausted =>
    intro houtages
    obtain ⟨failures, hfailures, -⟩ := exists_failures houtages
    refine ⟨failures, hfailures.symm, ?_⟩
    intro order horder
    exact verdict_of_outages operation houtages hfailures.symm horder

end Dispatch

/-! ### Timing of a pool -/

namespace Pool

/-- While nothing cancels the token of a pool, timing changes the class of the result of a request
exactly when the answer of one backend races with the refusal of another. Each backend makes one
attempt. Asking the pool is one order in which these complete, and each order is that of asking
the pool under some timing of its backends. -/
theorem timing_of_ask (p : Pool) {s : Session} (hs : s.Fits p)
    (htoken : s.token.cancelled = false) (hplan : s.cancelAfter = none) (r : Request) :
  (p.completions s r).map Completion.backend = p.names ∧
  Dispatch.Timing r.operation (p.completions s r) ∧
  (∃ order : List (Completion r.Answer), order.Perm (p.completions s r) ∧
    (p.ask r s).1 = Dispatch.verdict r.operation order) ∧
  ∀ order : List (Completion r.Answer), order.Perm (p.completions s r) →
    ∃ (moment : Nat → Nat) (limit : Nat), (∀ place, moment place ≤ limit) ∧
      ((p.retimed moment limit).ask r s).1 = Dispatch.verdict r.operation order
  := by
  refine ⟨map_backend_completions p hs r, Dispatch.timing r.operation _, ?_, ?_⟩
  · refine ⟨_, ?_, ask_eq_verdict p htoken hplan r⟩
    apply (Arrival.perm_inOrder _).map
  · intro order horder
    obtain ⟨moment, limit, hmoment, arrivals, hcompletes, rfl⟩ := p.exists_retimed horder
    exact ⟨moment, limit, hmoment, ask_of_completesIn _ htoken hplan hcompletes⟩

/-- Three backends, asked under a limit of ten milliseconds: one never answers, one has nothing
to serve, and one serves something that names no fork. -/
def threeBackends : Pool :=
  ⟨[⟨"silent", fun _ _ => .hangs⟩,
    ⟨"behind", fun _ r =>
      match r with
      | .finalityUpdate => .ends 3 (.ok none)
      | _ => .hangs⟩,
    ⟨"broken", fun _ _ => .ends 7 (.error (.response .noFork))⟩], 10⟩

/-- In the three backends there is a race: the result is not of one class in all orders. -/
theorem timing_of_threeBackends :
  let s := Session.fresh threeBackends .own
  s.Fits threeBackends ∧ s.token.cancelled = false ∧ s.cancelAfter = none ∧
    ¬ ∀ order order' : List (Completion Request.finalityUpdate.Answer),
      order.Perm (threeBackends.completions s .finalityUpdate) →
      order'.Perm (threeBackends.completions s .finalityUpdate) →
      ResultClass.of (Dispatch.verdict .finalityUpdate order)
        = ResultClass.of (Dispatch.verdict .finalityUpdate order')
  := by
  intro s
  have hs : s.Fits threeBackends := Session.fits_fresh threeBackends .own
  have htiming := (timing_of_ask threeBackends hs rfl rfl .finalityUpdate).2.1
  refine ⟨hs, rfl, rfl, ?_⟩
  intro hclass
  apply htiming.class_eq_iff.mp hclass
  constructor
  · exact ⟨⟨"behind", .ok none⟩, .tail _ (.head _), none, rfl⟩
  · exact ⟨⟨"broken", .error (.response .noFork)⟩, .tail _ (.tail _ (.head _)), _, rfl, rfl⟩

end Pool

end BeaconLight

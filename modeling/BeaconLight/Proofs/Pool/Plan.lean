import BeaconLight.Proofs.Pool.Order

/-!
# Plans to cancel a token

A plan cancels the token of a pool after some milliseconds. While a request waits, what ends at once
or before that moment is in time, and of what is in time the first decisive attempt decides as it
does without a plan. When all that is in time fails with outages and something is late, the request
is cancelled at that moment, what is late is given up, and no later request reaches a backend.
-/

namespace BeaconLight

variable {α : Type}

namespace Arrival

/-- The attempt ends at once or before a moment. -/
def IsInTime (moment : Nat) (a : Arrival α) : Prop :=
  a.ending.time = 0 ∨ a.ending.time < moment

instance (moment : Nat) (a : Arrival α) : Decidable (a.IsInTime moment) :=
  inferInstanceAs (Decidable (_ ∨ _))

/-- The arrivals in time, as they are looked at. -/
def inTime (moment : Nat) (arrivals : List (Arrival α)) : List (Arrival α) :=
  (inOrder arrivals).filter fun a => a.IsInTime moment

/-- The other arrivals, as they are looked at without a plan. -/
def late (moment : Nat) (arrivals : List (Arrival α)) : List (Arrival α) :=
  (inOrder arrivals).filter fun a => !decide (a.IsInTime moment)

variable {moment : Nat} {arrivals : List (Arrival α)} {a b : Arrival α}

theorem mem_inTime :
  a ∈ inTime moment arrivals ↔ a ∈ arrivals ∧ a.IsInTime moment
  := by rw [inTime, List.mem_filter, (perm_inOrder arrivals).mem_iff, decide_eq_true_eq]

theorem mem_late :
  a ∈ late moment arrivals ↔ a ∈ arrivals ∧ ¬ a.IsInTime moment
  := by
  rw [late, List.mem_filter, (perm_inOrder arrivals).mem_iff, Bool.not_eq_true',
    decide_eq_false_iff_not]

theorem isInTime_of_le (hab : a.ending.time ≤ b.ending.time)
    (hb : decide (b.IsInTime moment) = true) :
  decide (a.IsInTime moment) = true
  := by
  rw [decide_eq_true_eq] at hb ⊢
  unfold IsInTime at hb ⊢
  omega

/-- In the order of time, what is in time comes before what is late. -/
theorem inTime_append_late (moment : Nat) (arrivals : List (Arrival α)) :
  inTime moment arrivals ++ late moment arrivals = inOrder arrivals
  := filter_append_filter isInTime_of_le (pairwise_inOrder arrivals)

end Arrival

/-! ### Following a dispatch under a plan -/

namespace Settlement

variable (operation : Operation) {moment : Nat}

theorem isCancelledBy_eq (moment : Nat) (a : Arrival α) :
  isCancelledBy (some moment) a.ending.time = !decide (a.IsInTime moment)
  := by
  rw [isCancelledBy, ← Bool.decide_and, ← decide_not]
  apply decide_eq_decide.mpr
  unfold Arrival.IsInTime
  omega

/-- When all attempts are in time, a plan changes nothing. -/
theorem follow_of_isInTime {arrivals : List (Arrival α)} (h : ∀ a ∈ arrivals, a.IsInTime moment)
    (now : Nat) (d : Dispatch α) :
  follow operation (some moment) now d arrivals = follow operation none now d arrivals
  := by
  induction arrivals generalizing now d with
  | nil => rfl
  | cons a rest ih =>
    obtain ⟨ha, hrest⟩ := List.forall_mem_cons.mp h
    rw [follow, follow, isCancelledBy_eq, decide_eq_true ha]
    simp only [ih hrest]
    rfl

/-- Behind attempts in time that fail with outages, a dispatch waits for the rest. -/
theorem follow_append {before : List (Arrival α)}
    (hbefore : ∀ b ∈ before, b.IsInTime moment ∧ b.completion.IsOutage) (rest : List (Arrival α))
    (now pending : Nat) (failures : List Failure) :
  ∃ now' failures',
    follow operation (some moment) now (.waiting (pending + before.length) failures)
        (before ++ rest)
      = follow operation (some moment) now' (.waiting pending failures') rest
  := by
  induction before generalizing now failures with
  | nil => exact ⟨now, failures, rfl⟩
  | cons b before ih =>
    obtain ⟨⟨hin, houtage⟩, hbefore⟩ := List.forall_mem_cons.mp hbefore
    obtain ⟨f, hf, hconnectivity⟩ := houtage.exists_failure
    rw [List.cons_append, List.length_cons, ← Nat.add_assoc, follow, isCancelledBy_eq,
      decide_eq_true hin, Bool.not_true, if_neg Bool.false_ne_true, hf,
      Dispatch.turn_outage operation hconnectivity]
    apply ih hbefore

theorem follow_start_append {before : List (Arrival α)}
    (hbefore : ∀ b ∈ before, b.IsInTime moment ∧ b.completion.IsOutage)
    (rest : List (Arrival α)) :
  ∃ now failures,
    follow operation (some moment) 0 (.start (before ++ rest).length) (before ++ rest)
      = follow operation (some moment) now (.waiting rest.length failures) rest
  := by
  rw [Dispatch.start, List.length_append, Nat.add_comm]
  apply follow_append operation hbefore

/-- A decisive attempt in time decides behind such attempts. -/
theorem result_follow_decisive {before : List (Arrival α)} {a : Arrival α}
    (hbefore : ∀ b ∈ before, b.IsInTime moment ∧ b.completion.IsOutage)
    (hin : a.IsInTime moment) (ha : ¬ a.completion.IsOutage) (rest : List (Arrival α)) :
  (follow operation (some moment) 0 (.start (before ++ a :: rest).length)
      (before ++ a :: rest)).result = a.completion.decision
  := by
  obtain ⟨now, failures, hfollow⟩ := follow_start_append operation hbefore (a :: rest)
  rw [hfollow, follow, isCancelledBy_eq, decide_eq_true hin, Bool.not_true,
    if_neg Bool.false_ne_true, List.length_cons, Dispatch.turn_decisive operation ha]

/-- A late attempt is given up behind such attempts, and all others with it. -/
theorem follow_late {before : List (Arrival α)} {a : Arrival α}
    (hbefore : ∀ b ∈ before, b.IsInTime moment ∧ b.completion.IsOutage)
    (hlate : ¬ a.IsInTime moment) (rest : List (Arrival α)) :
  follow operation (some moment) 0 (.start (before ++ a :: rest).length) (before ++ a :: rest)
    = ⟨.error (.cancelled operation), moment, a :: rest, none⟩
  := by
  obtain ⟨now, failures, hfollow⟩ := follow_start_append operation hbefore (a :: rest)
  rw [hfollow, follow, isCancelledBy_eq, decide_eq_false hlate, Bool.not_false, if_pos rfl]
  rfl

end Settlement

/-! ### Requests under a plan -/

namespace Pool

variable (p : Pool) {s : Session} {moment : Nat}

theorem ask_of_cancelled (htoken : s.token.cancelled = true) (r : Request) :
  p.ask r s = (.error (.cancelled r.operation), s)
  := if_pos htoken

theorem after_of_cancelled (htoken : s.token.cancelled = true) (requests : List Request) :
  p.after requests s = s
  := by
  induction requests with
  | nil => rfl
  | cons r rest ih =>
    rw [after, List.foldl_cons, ask_of_cancelled p htoken]
    exact ih

theorem eq_of_place_eq {traffic : List Traffic} {r : Request} {a b : Arrival r.Answer}
    (ha : a ∈ p.arrivals traffic r) (hb : b ∈ p.arrivals traffic r) (h : a.place = b.place) :
  a = b
  := by
  have hplaces : ((p.arrivals traffic r).map Arrival.place).Nodup := by
    rw [map_place_arrivals]
    apply List.nodup_range
  exact List.inj_on_of_nodup_map hplaces ha hb h

variable (s moment) in
/-- An attempt is late, and all that are in time fail with outages. -/
def RunsLate (r : Request) : Prop :=
  (∃ a ∈ p.arrivals s.traffic r, ¬ a.IsInTime moment) ∧
  ∀ a ∈ p.arrivals s.traffic r, a.IsInTime moment → a.completion.IsOutage

variable {p}

/-- A request that runs late is cancelled at the moment of the plan, before what is late. -/
theorem RunsLate.settlement_eq {r : Request} (h : p.RunsLate s moment r)
    (hplan : s.cancelAfter = some moment) :
  p.settlement s r
    = ⟨.error (.cancelled r.operation), moment, Arrival.late moment (p.arrivals s.traffic r), none⟩
  := by
  obtain ⟨⟨a, ha, hlate⟩, houtages⟩ := h
  have hbefore : ∀ b ∈ Arrival.inTime moment (p.arrivals s.traffic r),
      b.IsInTime moment ∧ b.completion.IsOutage := by
    intro b hb
    obtain ⟨hmem, hin⟩ := Arrival.mem_inTime.mp hb
    exact ⟨hin, houtages b hmem hin⟩
  have hmem : a ∈ Arrival.late moment (p.arrivals s.traffic r) :=
    Arrival.mem_late.mpr ⟨ha, hlate⟩
  obtain ⟨first, rest, hrest⟩ := List.exists_cons_of_ne_nil (List.ne_nil_of_mem hmem)
  have hfirst : first ∈ Arrival.late moment (p.arrivals s.traffic r) := by
    rw [hrest]
    apply List.mem_cons_self
  have hfollow := Settlement.follow_late r.operation hbefore (Arrival.mem_late.mp hfirst).2 rest
  rw [← hrest, Arrival.inTime_append_late, (Arrival.perm_inOrder _).length_eq] at hfollow
  rw [settlement, hplan, hfollow]

/-- A request that does not run late comes to what it does without a plan. -/
theorem result_of_not_runsLate {r : Request} (h : ¬ p.RunsLate s moment r)
    (hplan : s.cancelAfter = some moment) :
  (p.settlement s r).result = Dispatch.verdict r.operation
    ((Arrival.inOrder (p.arrivals s.traffic r)).map Arrival.completion)
  := by
  rw [settlement, hplan, ← (Arrival.perm_inOrder _).length_eq]
  rcases outages_or_first ((Arrival.inTime moment (p.arrivals s.traffic r)).map
    Arrival.completion) with houtages | ⟨_, _, _, hfirst, hbefore, hc⟩
  · -- Nothing is late.
    have hin : ∀ a ∈ Arrival.inOrder (p.arrivals s.traffic r), a.IsInTime moment := by
      intro a ha
      by_contra hlate
      apply h
      refine ⟨⟨a, (Arrival.perm_inOrder _).mem_iff.mp ha, hlate⟩, ?_⟩
      intro b hb hin
      apply houtages
      apply List.mem_map_of_mem
      exact Arrival.mem_inTime.mpr ⟨hb, hin⟩
    rw [Settlement.follow_of_isInTime r.operation hin, Settlement.result_follow, Dispatch.verdict,
      List.length_map]
  · -- The first decisive attempt is in time.
    obtain ⟨before, later, hsplit, rfl, hlater⟩ := List.map_eq_append_iff.mp hfirst
    obtain ⟨a, rest, rfl, rfl, rfl⟩ := List.map_eq_cons_iff.mp hlater
    have hin : ∀ b ∈ before ++ a :: rest, b.IsInTime moment := by
      intro b hb
      rw [← hsplit] at hb
      exact (Arrival.mem_inTime.mp hb).2
    obtain ⟨hbefore', ha⟩ := List.forall_mem_append.mp hin
    have houtages : ∀ b ∈ before, b.IsInTime moment ∧ b.completion.IsOutage := fun b hb =>
      ⟨hbefore' b hb, hbefore _ (List.mem_map_of_mem hb)⟩
    rw [← Arrival.inTime_append_late moment, hsplit, List.append_assoc, List.cons_append,
      Settlement.result_follow_decisive r.operation houtages (ha a List.mem_cons_self) hc,
      List.map_append, List.map_cons, Dispatch.verdict_decisive r.operation hbefore hc]

variable (p s moment) in
/-- What a request comes to when the token is to be cancelled at a moment. -/
structure FollowsPlan (r : Request) : Prop where
  /-- It is cancelled exactly when it runs late. -/
  cancelled_iff : (∃ operation, (p.ask r s).1 = .error (.cancelled operation)) ↔
    p.RunsLate s moment r
  /-- When it is cancelled, this is at that moment. All backends have got the request, and what is
  late is given up. The token is cancelled, and later requests change nothing. -/
  cancelled : ∀ operation, (p.ask r s).1 = .error (.cancelled operation) →
    operation = r.operation ∧
    (p.ask r s).2 = ⟨s.token.cancel, some 0, s.elapsed + moment,
      (p.arrivals s.traffic r).zipWith (fun a t => ⟨t.requests ++ [r],
        t.abandoned + if a.IsInTime moment ∧ a.ending.byItself = true then 0 else 1⟩) s.traffic⟩ ∧
    ∀ requests, p.after requests (p.ask r s).2 = (p.ask r s).2
  /-- Otherwise it comes to what it does without a plan, and the token stays as it is. -/
  otherwise : (∀ operation, (p.ask r s).1 ≠ .error (.cancelled operation)) →
    (p.ask r s).1 = Dispatch.verdict r.operation
      ((Arrival.inOrder (p.arrivals s.traffic r)).map Arrival.completion) ∧
    (p.ask r s).2.token = s.token

/-- What is late is given up, and so is what does not end by itself. -/
theorem account_of_late {traffic : List Traffic} {r : Request} {a : Arrival r.Answer}
    (ha : a ∈ p.arrivals traffic r) (result : Except PoolError r.Answer) (t : Traffic) :
  Settlement.account ⟨result, moment, Arrival.late moment (p.arrivals traffic r), none⟩ r a t
    = ⟨t.requests ++ [r],
      t.abandoned + if a.IsInTime moment ∧ a.ending.byItself = true then 0 else 1⟩
  := by
  have hplace : (Arrival.late moment (p.arrivals traffic r)).any (·.place == a.place)
      = !decide (a.IsInTime moment) := by
    rw [Bool.eq_iff_iff, List.any_eq_true, Bool.not_eq_true', decide_eq_false_iff_not]
    constructor
    · rintro ⟨b, hb, hplace⟩
      obtain ⟨hmem, hlate⟩ := Arrival.mem_late.mp hb
      obtain rfl := eq_of_place_eq p hmem ha (beq_iff_eq.mp hplace)
      exact hlate
    · intro hlate
      exact ⟨a, Arrival.mem_late.mpr ⟨ha, hlate⟩, beq_self_eq_true _⟩
  rw [Settlement.account, Settlement.started, if_pos rfl, Settlement.abandoned, hplace]
  cases a.ending.byItself
  all_goals
    by_cases hin : a.IsInTime moment
    all_goals simp [hin]

theorem zipWith_account_late (traffic : List Traffic) {r : Request}
    (result : Except PoolError r.Answer) :
  (p.arrivals traffic r).zipWith
      (Settlement.account ⟨result, moment, Arrival.late moment (p.arrivals traffic r), none⟩ r)
      traffic
    = (p.arrivals traffic r).zipWith (fun a t => ⟨t.requests ++ [r],
        t.abandoned + if a.IsInTime moment ∧ a.ending.byItself = true then 0 else 1⟩) traffic
  := by
  apply List.ext_getElem
  · rw [List.length_zipWith, List.length_zipWith]
  · intro place hplace hplace'
    rw [List.getElem_zipWith, List.getElem_zipWith]
    apply account_of_late
    apply List.getElem_mem

/-- A request follows the plan to cancel the token, which is not cancelled yet. -/
theorem followsPlan (p : Pool) (htoken : s.token.cancelled = false)
    (hplan : s.cancelAfter = some moment) (r : Request) :
  p.FollowsPlan s moment r
  := by
  have hask := ask_eq p htoken r
  by_cases hlate : p.RunsLate s moment r
  · have hsettlement := hlate.settlement_eq hplan
    rw [hsettlement] at hask
    constructor
    case cancelled_iff =>
      rw [hask]
      exact iff_of_true ⟨_, rfl⟩ hlate
    case cancelled =>
      intro operation h
      rw [hask] at h ⊢
      cases h
      refine ⟨rfl, ?_, ?_⟩
      · rw [hplan, Option.map_some, Nat.sub_self, zipWith_account_late]
        rfl
      · intro requests
        apply after_of_cancelled
        rfl
    case otherwise =>
      intro h
      rw [hask] at h
      exact absurd rfl (h _)
  · have hresult := result_of_not_runsLate hlate hplan
    have hkept : ∀ operation, (p.settlement s r).result ≠ .error (.cancelled operation) := by
      intro operation
      rw [hresult]
      apply Dispatch.verdict_ne_cancelled
    rw [Settlement.isCancelled_eq_false hkept] at hask
    constructor
    case cancelled_iff =>
      rw [hask]
      apply iff_of_false _ hlate
      rintro ⟨operation, h⟩
      exact hkept operation h
    case cancelled =>
      intro operation h
      rw [hask] at h
      exact absurd h (hkept operation)
    case otherwise =>
      intro _
      rw [hask]
      exact ⟨hresult, rfl⟩

end Pool

end BeaconLight

import Mathlib.Data.List.Permutation
import BeaconLight.Proofs.Pool.Session

/-!
# The order of completion

The attempts of a request complete in the order of time: what ends earlier comes first, and of what
ends at the same time, what stands first in the pool. There is one such order, and the first
decisive attempt in it decides the request.

It can be any order of the attempts: each is the order of time when the backends take other times
for the same outcomes (`exists_retimed`).
-/

namespace BeaconLight

variable {α : Type}

/-! ### Arrivals in the order of time -/

namespace Arrival

/-- The attempt completes before another: it ends earlier, or at the same time while its backend
stands first. -/
def Precedes (a b : Arrival α) : Prop :=
  a.ending.time < b.ending.time ∨ a.ending.time = b.ending.time ∧ a.place < b.place

theorem Precedes.not_precedes {a b : Arrival α} (hab : a.Precedes b) :
  ¬ b.Precedes a
  := by
  unfold Precedes at hab ⊢
  omega

theorem perm_inOrder (arrivals : List (Arrival α)) :
  (inOrder arrivals).Perm arrivals
  := by apply List.mergeSort_perm

theorem time_le_trans (a b c : Arrival α) (hab : decide (a.ending.time ≤ b.ending.time) = true)
    (hbc : decide (b.ending.time ≤ c.ending.time) = true) :
  decide (a.ending.time ≤ c.ending.time) = true
  := by
  rw [decide_eq_true_eq] at hab hbc ⊢
  apply Nat.le_trans hab hbc

theorem time_le_total (a b : Arrival α) :
  (decide (a.ending.time ≤ b.ending.time) || decide (b.ending.time ≤ a.ending.time)) = true
  := by
  rw [Bool.or_eq_true, decide_eq_true_eq, decide_eq_true_eq]
  apply Nat.le_total

/-- Arrivals are looked at in the order of time. -/
theorem pairwise_inOrder (arrivals : List (Arrival α)) :
  (inOrder arrivals).Pairwise fun a b => a.ending.time ≤ b.ending.time
  := by
  apply (List.pairwise_mergeSort time_le_trans time_le_total arrivals).imp
  intro a b hab
  apply of_decide_eq_true hab

/-- Arrivals in the order of time begin with those that pass a test of being early. -/
theorem filter_append_filter {test : Arrival α → Bool}
    (htest : ∀ {a b}, a.ending.time ≤ b.ending.time → test b = true → test a = true)
    {arrivals : List (Arrival α)}
    (h : arrivals.Pairwise fun a b => a.ending.time ≤ b.ending.time) :
  arrivals.filter test ++ arrivals.filter (!test ·) = arrivals
  := by
  induction arrivals with
  | nil => rfl
  | cons a rest ih =>
    obtain ⟨ha, hrest⟩ := List.pairwise_cons.mp h
    cases hearly : test a with
    | true =>
      rw [List.filter_cons_of_pos hearly, List.filter_cons_of_neg (by simp [hearly]),
        List.cons_append, ih hrest]
    | false =>
      have hlater : ∀ b ∈ a :: rest, test b = false := by
        intro b hb
        rcases List.mem_cons.mp hb with rfl | hb
        · exact hearly
        · rw [← Bool.not_eq_true] at hearly ⊢
          intro hb'
          exact hearly (htest (ha b hb) hb')
      rw [List.filter_eq_nil_iff.mpr (by simpa using hlater),
        List.filter_eq_self.mpr (by simpa using hlater), List.nil_append]

/-- Arrivals of one time are looked at in the order in which they stand. -/
theorem filter_inOrder (arrivals : List (Arrival α)) (time : Nat) :
  (inOrder arrivals).filter (·.ending.time == time)
    = arrivals.filter (·.ending.time == time)
  := by
  have hsublist : (arrivals.filter (·.ending.time == time)).Sublist (inOrder arrivals) := by
    apply List.sublist_mergeSort time_le_trans time_le_total _ List.filter_sublist
    apply List.pairwise_of_forall_mem_list
    intro a ha b hb
    have htime := beq_iff_eq.mp (List.mem_filter.mp ha).2
    have htime' := beq_iff_eq.mp (List.mem_filter.mp hb).2
    apply decide_eq_true
    rw [htime, htime']
  have h := hsublist.filter (·.ending.time == time)
  rw [List.filter_filter] at h
  simp only [Bool.and_self] at h
  apply (h.eq_of_length ((perm_inOrder arrivals).filter _).length_eq.symm).symm

/-- Arrivals that stand in the order of their places are looked at as they complete. -/
theorem pairwise_precedes_inOrder {arrivals : List (Arrival α)}
    (h : arrivals.Pairwise fun a b => a.place < b.place) :
  (inOrder arrivals).Pairwise Precedes
  := by
  rw [List.pairwise_iff_forall_sublist] at h ⊢
  intro a b hab
  have htime : a.ending.time ≤ b.ending.time :=
    List.pairwise_iff_forall_sublist.mp (pairwise_inOrder arrivals) hab
  rcases Nat.lt_or_eq_of_le htime with hlt | heq
  · left
    exact hlt
  · right
    have hsublist := hab.filter (·.ending.time == b.ending.time)
    have hfilter : [a, b].filter (·.ending.time == b.ending.time) = [a, b] := by
      simp [heq]
    rw [filter_inOrder, hfilter] at hsublist
    exact ⟨heq, h (hsublist.trans List.filter_sublist)⟩

end Arrival

/-! ### The order of a request -/

namespace Pool

variable (p : Pool) (s : Session) (r : Request)

/-- The attempts of the backends of a pool complete in an order. -/
structure CompletesIn (order : List (Arrival r.Answer)) : Prop where
  /-- The attempt of each backend completes once. -/
  perm : order.Perm (p.arrivals s.traffic r)
  /-- What completes before another stands before it. -/
  pairwise : order.Pairwise Arrival.Precedes

theorem map_place_arrivals (traffic : List Traffic) :
  (p.arrivals traffic r).map Arrival.place = List.range (p.arrivals traffic r).length
  := by
  apply List.ext_getElem
  · rw [List.length_map, List.length_range]
  · intro place hplace hplace'
    simp [arrivals]

/-- Arrivals are looked at in the order in which they complete. -/
theorem completesIn_inOrder :
  p.CompletesIn s r (Arrival.inOrder (p.arrivals s.traffic r))
  := by
  constructor
  case perm => apply Arrival.perm_inOrder
  case pairwise =>
    apply Arrival.pairwise_precedes_inOrder
    rw [← List.pairwise_map (f := Arrival.place) (R := (· < ·)), map_place_arrivals]
    apply List.pairwise_lt_range

variable {p s r}

/-- The attempts complete in no other order. -/
theorem CompletesIn.eq_inOrder {order : List (Arrival r.Answer)} (h : p.CompletesIn s r order) :
  order = Arrival.inOrder (p.arrivals s.traffic r)
  := by
  have hinOrder := p.completesIn_inOrder s r
  apply List.Perm.eq_of_pairwise _ h.pairwise hinOrder.pairwise
  · exact h.perm.trans hinOrder.perm.symm
  · intro a b _ _ hab hba
    exact absurd hba hab.not_precedes

end Pool

/-! ### What a request comes to -/

/-- Without a plan to cancel, following a dispatch over time is running it in the order of
time. -/
theorem Settlement.result_follow (operation : Operation) (now : Nat) (d : Dispatch α)
    (arrivals : List (Arrival α)) :
  (follow operation none now d arrivals).result
    = (d.run operation (arrivals.map Arrival.completion)).conclude operation
  := by
  induction arrivals generalizing now d with
  | nil => rfl
  | cons a rest ih =>
    rw [follow, isCancelledBy, if_neg Bool.false_ne_true, List.map_cons, Dispatch.run,
      List.foldl_cons]
    cases hturn : d.turn operation false (some a.completion) with
    | waiting pending failures => apply ih
    | settled result =>
      have hrun := Dispatch.run_settled operation result (rest.map Arrival.completion)
      rw [Dispatch.run] at hrun
      rw [hrun]
      rfl

namespace Pool

variable (p : Pool) {s : Session}

/-- While nothing cancels the token, a request comes to the verdict on the attempts of the
backends in the order of time. -/
theorem ask_eq_verdict (htoken : s.token.cancelled = false) (hplan : s.cancelAfter = none)
    (r : Request) :
  (p.ask r s).1 = Dispatch.verdict r.operation
    ((Arrival.inOrder (p.arrivals s.traffic r)).map Arrival.completion)
  := by
  have hlength : (Arrival.inOrder (p.arrivals s.traffic r)).length
      = (p.arrivals s.traffic r).length := List.length_mergeSort _
  rw [ask_eq p htoken, settlement, hplan, Settlement.result_follow, Dispatch.verdict,
    List.length_map, hlength]

/-- Without a plan to cancel it, a request leaves the token as it is. -/
theorem ask_leaves_token (htoken : s.token.cancelled = false) (hplan : s.cancelAfter = none)
    (r : Request) :
  (p.ask r s).2.token = s.token ∧ (p.ask r s).2.cancelAfter = none
  := by
  have hresult := ask_eq_verdict p htoken hplan r
  rw [ask_eq p htoken] at hresult ⊢
  have hcancelled : (p.settlement s r).isCancelled = false := by
    apply Settlement.isCancelled_eq_false
    intro operation
    dsimp only at hresult
    rw [hresult]
    apply Dispatch.verdict_ne_cancelled
  rw [hcancelled, hplan]
  exact ⟨rfl, rfl⟩

/-- Without a plan to cancel it, requests leave the token as it is. -/
theorem after_leaves_token (htoken : s.token.cancelled = false) (hplan : s.cancelAfter = none)
    (requests : List Request) :
  (p.after requests s).token = s.token ∧ (p.after requests s).cancelAfter = none
  := by
  induction requests generalizing s with
  | nil => exact ⟨rfl, hplan⟩
  | cons r rest ih =>
    obtain ⟨htoken', hplan'⟩ := ask_leaves_token p htoken hplan r
    have hrest := ih (htoken' ▸ htoken) hplan'
    rw [htoken'] at hrest
    exact hrest

/-- While nothing cancels the token, a request comes to the verdict on the attempts of the
backends as they complete. -/
theorem ask_of_completesIn (htoken : s.token.cancelled = false) (hplan : s.cancelAfter = none)
    {r : Request} {order : List (Arrival r.Answer)} (horder : p.CompletesIn s r order) :
  (p.ask r s).1 = Dispatch.verdict r.operation (order.map Arrival.completion)
  := by
  rw [horder.eq_inOrder, ask_eq_verdict p htoken hplan]

/-- A pool of one backend comes to what that does in time. -/
theorem ask_singleton {b : Backend} {limit after : Nat} {seen : Traffic}
    (htraffic : s.traffic = [seen]) (htoken : s.token.cancelled = false)
    (hplan : s.cancelAfter = none) {r : Request} {outcome : Except NodeError r.Answer}
    (hserve : b.serve seen.requests r = .ends after outcome) (hafter : after ≤ limit) :
  (Pool.ask ⟨[b], limit⟩ r s).1 = Dispatch.verdict r.operation [⟨b.name, outcome⟩]
  := by
  have harrivals : Pool.arrivals ⟨[b], limit⟩ s.traffic r
      = [⟨0, b.name, ⟨after, outcome, true⟩⟩] := by
    rw [htraffic]
    show [(⟨0, b.name, (b.serve seen.requests r).within limit⟩ : Arrival r.Answer)] = _
    rw [hserve, Attempt.within, if_pos hafter]
  rw [ask_eq_verdict _ htoken hplan, harrivals, Arrival.inOrder, List.mergeSort_singleton]
  rfl

end Pool

/-! ### Other times -/

/-- The arrival at another moment, with the outcome that it has. -/
def Arrival.retimed (moment : Nat → Nat) (a : Arrival α) : Arrival α :=
  ⟨a.place, a.backend, ⟨moment a.place, a.ending.outcome, true⟩⟩

namespace Pool

/-- The pool under another limit and with the moments changed at which its backends end their
attempts. What these end in stays the same. -/
def retimed (p : Pool) (moment : Nat → Nat) (limit : Nat) : Pool :=
  ⟨p.backends.mapIdx fun place backend =>
    ⟨backend.name, fun seen r =>
      .ends (moment place) ((backend.serve seen r).within p.limit).outcome⟩, limit⟩

/-- The attempts of the backends end at the moments that they are given. -/
theorem arrivals_retimed (p : Pool) {moment : Nat → Nat} {limit : Nat}
    (hmoment : ∀ place, moment place ≤ limit) (traffic : List Traffic) (r : Request) :
  (p.retimed moment limit).arrivals traffic r
    = (p.arrivals traffic r).map (Arrival.retimed moment)
  := by
  apply List.ext_getElem
  · simp [arrivals, retimed]
  · intro place hplace hplace'
    simp [arrivals, retimed, Arrival.retimed, Attempt.within, hmoment]

/-- The attempts of the backends of a pool complete in any order under some timing. -/
theorem exists_retimed (p : Pool) {s : Session} {r : Request} {order : List (Completion r.Answer)}
    (horder : order.Perm (p.completions s r)) :
  ∃ (moment : Nat → Nat) (limit : Nat), (∀ place, moment place ≤ limit) ∧
    ∃ arrivals, (p.retimed moment limit).CompletesIn s r arrivals ∧
      arrivals.map Arrival.completion = order
  := by
  have hcomp := (congrFun (congrFun (List.eq_map_comp_perm Arrival.completion) order)
    (p.arrivals s.traffic r)).mpr horder
  -- The order of the attempts is that of the arrivals they come from.
  obtain ⟨arrivals, rfl, hperm⟩ := hcomp
  have hplaces : (arrivals.map Arrival.place).Nodup := by
    rw [(hperm.map Arrival.place).nodup_iff, map_place_arrivals]
    exact List.nodup_range
  -- An attempt ends at the moment that is its index in the order.
  let moment (place : Nat) : Nat := (arrivals.map Arrival.place).idxOf place
  have hmoment : ∀ place, moment place ≤ (arrivals.map Arrival.place).length :=
    fun place => List.idxOf_le_length
  refine ⟨moment, _, hmoment, arrivals.map (Arrival.retimed moment), ⟨?_, ?_⟩, ?_⟩
  · rw [arrivals_retimed p hmoment]
    exact hperm.map _
  · rw [List.pairwise_map, List.pairwise_iff_getElem]
    intro i j hi hj hij
    have hindex (i : Nat) (hi : i < arrivals.length) : moment arrivals[i].place = i := by
      have h := hplaces.idxOf_getElem i (by rwa [List.length_map])
      rwa [List.getElem_map] at h
    left
    show moment arrivals[i].place < moment arrivals[j].place
    rwa [hindex i hi, hindex j hj]
  · rw [List.map_map]
    rfl

/-- While nothing cancels the token of a pool, the first decisive attempt decides a request, in the
order in which the attempts of the backends complete. Each backend makes one attempt, and there is
one such order, which the request follows. It can be any order of the attempts: each is the one of
asking the pool under some timing of its backends. -/
theorem ask_firstDecides (p : Pool) {s : Session} (hs : s.Fits p)
    (htoken : s.token.cancelled = false) (hplan : s.cancelAfter = none) (r : Request) :
  (p.completions s r).map Completion.backend = p.names ∧
  p.CompletesIn s r (Arrival.inOrder (p.arrivals s.traffic r)) ∧
  (∀ order : List (Arrival r.Answer), p.CompletesIn s r order →
    (p.ask r s).1 = Dispatch.verdict r.operation (order.map Arrival.completion) ∧
    Dispatch.FirstDecides r.operation (order.map Arrival.completion) (p.ask r s).1) ∧
  ∀ order : List (Completion r.Answer), order.Perm (p.completions s r) →
    (order.map Completion.backend).Perm p.names ∧
    ∃ (moment : Nat → Nat) (limit : Nat), (∀ place, moment place ≤ limit) ∧
      (∃ arrivals, (p.retimed moment limit).CompletesIn s r arrivals ∧
        arrivals.map Arrival.completion = order) ∧
      Dispatch.FirstDecides r.operation order ((p.retimed moment limit).ask r s).1
  := by
  have hnames := map_backend_completions p hs r
  refine ⟨hnames, p.completesIn_inOrder s r, ?_, ?_⟩
  · intro order horder
    have hverdict := ask_of_completesIn p htoken hplan horder
    refine ⟨hverdict, ?_⟩
    rw [hverdict]
    apply Dispatch.firstDecides_verdict
  · intro order horder
    obtain ⟨moment, limit, hmoment, arrivals, hcompletes, harrivals⟩ := p.exists_retimed horder
    refine ⟨?_, moment, limit, hmoment, ⟨arrivals, hcompletes, harrivals⟩, ?_⟩
    · rw [← hnames]
      apply horder.map
    · rw [ask_of_completesIn _ htoken hplan hcompletes, harrivals]
      apply Dispatch.firstDecides_verdict

/-- Three backends that complete in another order than they stand in. The one that stands first
serves something that names no fork, but after the limit. The second serves that as its finality
update and is unavailable for anything else, and so is the third, which has no finality update yet
and is faster. -/
def lastIsFastest : Pool :=
  ⟨[⟨"late", fun _ _ => .ends 20 (.error (.response .noFork))⟩,
    ⟨"broken", fun _ r =>
      match r with
      | .finalityUpdate => .ends 7 (.error (.response .noFork))
      | _ => .ends 7 (.error (.outage (.status 503 "")))⟩,
    ⟨"behind", fun _ r =>
      match r with
      | .finalityUpdate => .ends 3 (.ok none)
      | _ => .ends 3 (.error (.outage (.status 503 "")))⟩], 10⟩

/-- Of three backends the last is the fastest: its answer counts, although one before it would
refuse the request, and its failure is reported first when all fail. -/
theorem ask_firstDecides_lastIsFastest :
  let s := lastIsFastest.after [.spec] (.fresh lastIsFastest .own)
  s.Fits lastIsFastest ∧ s.token.cancelled = false ∧ s.cancelAfter = none ∧
    (lastIsFastest.completions s .finalityUpdate).map Completion.backend
      = ["late", "broken", "behind"] ∧
    (lastIsFastest.ask .finalityUpdate s).1 = .ok none ∧
    (lastIsFastest.ask .optimisticUpdate s).1 = .error (.exhausted .optimisticUpdate
      [⟨"behind", .outage (.status 503 "")⟩, ⟨"broken", .outage (.status 503 "")⟩,
        ⟨"late", .outage (.timedOut 10)⟩])
  := by
  intro s
  have hs : s.Fits lastIsFastest := fits_after _ (Session.fits_fresh _ .own) [.spec]
  obtain ⟨htoken, hplan⟩ := after_leaves_token lastIsFastest
    (s := .fresh lastIsFastest .own) rfl rfl [.spec]
  have htoken : s.token.cancelled = false := congrArg Token.cancelled htoken
  have hplan : s.cancelAfter = none := hplan
  clear_value s
  obtain ⟨late, broken, behind, htraffic⟩ := List.length_eq_three.mp hs
  -- They complete in the opposite order to the one they stand in.
  have hreversed (r : Request) :
      lastIsFastest.CompletesIn s r (lastIsFastest.arrivals s.traffic r).reverse := by
    constructor
    case perm => apply List.reverse_perm
    case pairwise =>
      rw [htraffic]
      cases r
      all_goals simp [lastIsFastest, arrivals, Arrival.Precedes, Attempt.within,
        Attempt.within.expire]
  obtain ⟨hnames, -, hfinality, -⟩ := ask_firstDecides _ hs htoken hplan .finalityUpdate
  obtain ⟨-, -, hoptimistic, -⟩ := ask_firstDecides _ hs htoken hplan .optimisticUpdate
  refine ⟨hs, htoken, hplan, hnames, ?_, ?_⟩
  · have hanswer := (hfinality _ (hreversed .finalityUpdate)).2.answer []
    rw [htraffic] at hanswer
    exact hanswer _ _ none rfl (List.forall_mem_nil _) rfl
  · rw [(hoptimistic _ (hreversed .optimisticUpdate)).1, htraffic]
    rfl

end Pool

end BeaconLight

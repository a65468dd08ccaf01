import BeaconLight.Proofs.Pool.Order
import BeaconLight.Proofs.Pool.Service

/-!
# Asking over time as a run

Asking a pool over time is one run of the pool in use: the request is made, its dispatch has its
turns, and the attempts complete in the order of time until the token is cancelled.
-/

namespace BeaconLight

/-! ### Arrivals in the order of time -/

namespace Arrival

variable {α : Type}

/-- The attempt ends at once. -/
def isImmediate (a : Arrival α) : Bool :=
  a.ending.time == 0

theorem isImmediate_of_le {a b : Arrival α} (hab : a.ending.time ≤ b.ending.time)
    (hb : b.isImmediate = true) :
  a.isImmediate = true
  := by
  rw [isImmediate, beq_iff_eq] at hb ⊢
  omega

/-- Arrivals that end at once are looked at first, in the order in which they stand. -/
theorem inOrder_eq (arrivals : List (Arrival α)) :
  inOrder arrivals
    = arrivals.filter isImmediate ++ (inOrder arrivals).filter (!isImmediate ·)
  := by
  have hfilter : arrivals.filter isImmediate = (inOrder arrivals).filter isImmediate :=
    (filter_inOrder arrivals 0).symm
  rw [hfilter, filter_append_filter isImmediate_of_le (pairwise_inOrder arrivals)]

end Arrival

/-! ### Turns with a result -/

namespace Dispatch

variable {α : Type} {operation : Operation} {pending : Nat} {failures : List Failure}
  {c : Completion α}

theorem pending_of_turn {pending' : Nat} {failures' : List Failure}
    (h : (waiting (pending + 1) failures).turn operation false (some c)
      = waiting pending' failures') :
  pending' = pending
  := by
  rcases turn_some_cases operation pending failures c with ⟨f, -, hturn⟩ | ⟨-, hturn⟩
  · exact (waiting.inj (hturn.symm.trans h)).1.symm
  · cases hturn.symm.trans h

/-- A turn that looks at an attempt does not cancel. -/
theorem ne_cancelled_of_turn {result : Except PoolError α}
    (h : (waiting (pending + 1) failures).turn operation false (some c) = settled result)
    (operation' : Operation) :
  result ≠ .error (.cancelled operation')
  := by
  rcases turn_some_cases operation pending failures c with ⟨f, -, hturn⟩ | ⟨-, hturn⟩
  · cases hturn.symm.trans h
  · rintro rfl
    have hdecision := settled.inj (hturn.symm.trans h)
    obtain ⟨f, hf⟩ := Completion.exists_refused_of_decision hdecision
    cases hf

end Dispatch

namespace Settlement

variable {α : Type} {operation : Operation} {cancelAfter : Option Nat}

theorem isCancelledBy_zero (cancelAfter : Option Nat) :
  isCancelledBy cancelAfter 0 = false
  := by
  cases cancelAfter
  all_goals rfl

/-- All backends up to the first whose attempt ends at once are started. -/
theorem started_follow {place : Nat} {arrivals : List (Arrival α)}
    (h : ∀ a ∈ arrivals, a.isImmediate = true → place ≤ a.place) (now : Nat) (d : Dispatch α) :
  (follow operation cancelAfter now d arrivals).started place = true
  := by
  induction arrivals generalizing now d with
  | nil => rfl
  | cons a rest ih =>
    obtain ⟨ha, hrest⟩ := List.forall_mem_cons.mp h
    rw [follow]
    split
    case isTrue => rfl
    case isFalse =>
      split
      · rw [started]
        dsimp only
        by_cases himmediate : a.ending.time = 0
        · rw [if_pos himmediate]
          apply decide_eq_true (ha _)
          rw [Arrival.isImmediate, himmediate]
          rfl
        · rw [if_neg himmediate]
      · apply ih hrest

/-- What the backends at some places have got after a request, one after another from the
first. -/
def askedAfter (s : Settlement α) (r : Request) (asked : Asked) (first count : Nat) : Asked :=
  fun place =>
    if first ≤ place ∧ place < first + count ∧ s.started place = true then asked place ++ [r]
    else asked place

variable {s : Settlement α} {r : Request} {asked : Asked}

theorem askedAfter_zero (first : Nat) :
  s.askedAfter r asked first 0 = asked
  := by
  funext place
  apply if_neg
  omega

/-- The first of some backends gets the request before the others. -/
theorem askedAfter_succ {first : Nat} (h : s.started first = true) (count : Nat) :
  s.askedAfter r asked first (count + 1) = s.askedAfter r (asked.add first r) (first + 1) count
  := by
  funext place
  by_cases hplace : place = first
  · subst hplace
    rw [askedAfter, askedAfter, if_pos ⟨by omega, by omega, h⟩, if_neg (by omega), Asked.add,
      if_pos rfl]
  · have hadd : asked.add first r place = asked place := if_neg hplace
    have hlow : first ≤ place ↔ first + 1 ≤ place := by omega
    have hhigh : place < first + (count + 1) ↔ place < first + 1 + count := by omega
    rw [askedAfter, askedAfter, hadd]
    simp only [hlow, hhigh]

/-- Only the first of some backends gets the request when its attempt settles it at once. -/
theorem askedAfter_immediate {result : Except PoolError α} {unseen : List (Arrival α)}
    (first count : Nat) :
  askedAfter ⟨result, 0, unseen, some first⟩ r asked first (count + 1) = asked.add first r
  := by
  funext place
  by_cases hplace : place = first
  · subst hplace
    rw [askedAfter, Asked.add, if_pos rfl]
    apply if_pos
    exact ⟨by omega, by omega, decide_eq_true (Nat.le_refl _)⟩
  · rw [askedAfter, Asked.add, if_neg hplace]
    apply if_neg
    rintro ⟨hfirst, -, hstarted⟩
    have hlast : place ≤ first := of_decide_eq_true hstarted
    omega

end Settlement

/-! ### Attempts of backends one after another -/

/-- The attempts of backends from a place on. -/
def Asked.arrivals (asked : Asked) (limit : Nat) (r : Request) (first : Nat)
  (backends : List Backend) : List (Arrival r.Answer) :=
  (backends.zipIdx first).map fun entry => entry.1.arrival entry.2 limit asked r

namespace Asked

variable {asked : Asked} {limit : Nat} {r : Request} {first : Nat} {backends : List Backend}

/-- What a backend gets does not change the attempts of those behind it. -/
theorem arrivals_add {place : Nat} (h : place < first) :
  (asked.add place r).arrivals limit r first backends = asked.arrivals limit r first backends
  := by
  apply List.map_congr_left
  rintro ⟨b, other⟩ hentry
  have hother : other ≠ place := by
    have hle := List.le_snd_of_mem_zipIdx hentry
    dsimp only at hle
    omega
  rw [Backend.arrival, Backend.arrival, add, if_neg hother]

theorem le_place_of_mem_arrivals {a : Arrival r.Answer}
    (h : a ∈ asked.arrivals limit r first backends) :
  first ≤ a.place
  := by
  obtain ⟨entry, hentry, rfl⟩ := List.mem_map.mp h
  apply List.le_snd_of_mem_zipIdx hentry

end Asked

namespace Line

variable {b : Backend} {place limit : Nat} {rest : List (Backend × Nat)} {r : Request}
  {running ready : List (Arrival r.Answer)} {asked : Asked}

theorem poll_of_immediate (h : (b.arrival place limit asked r).isImmediate = true) :
  poll limit r ((b, place) :: rest) running ready asked
    = ⟨some (b.arrival place limit asked r), asked.add place r, ⟨rest, running, ready⟩⟩
  := by
  rw [Arrival.isImmediate, beq_iff_eq] at h
  rw [Line.poll, if_pos h]

theorem poll_of_not_immediate (h : (b.arrival place limit asked r).isImmediate = false) :
  poll limit r ((b, place) :: rest) running ready asked
    = poll limit r rest (running ++ [b.arrival place limit asked r]) ready
        (asked.add place r)
  := by
  rw [Arrival.isImmediate, beq_eq_false_iff_ne] at h
  rw [Line.poll, if_neg h]

end Line

namespace Service

/-! ### Steps of the last request -/

/-- Some run leads from one state of a pool in use to another. -/
def Leads (p : Pool) (s t : Service) : Prop :=
  ∃ actions, s.run p actions = t

variable {p : Pool} {token : Token} {asked : Asked} {flights : List Flight}

theorem Leads.refl (s : Service) :
  s.Leads p s
  := ⟨[], rfl⟩

theorem Leads.step {s t : Service} (a : Action) (h : (s.step p a).Leads p t) :
  s.Leads p t
  := by
  obtain ⟨actions, hactions⟩ := h
  exact ⟨a :: actions, hactions⟩

theorem step_turn_last (f : Flight) :
  step p ⟨token, asked, flights ++ [f]⟩ (.turn flights.length)
    = ⟨token, (f.turn p token.cancelled asked).1,
        flights ++ [(f.turn p token.cancelled asked).2]⟩
  := by simp [step]

theorem step_finish_last (f : Flight) (index : Nat) :
  step p ⟨token, asked, flights ++ [f]⟩ (.finish flights.length index)
    = ⟨token, asked, flights ++ [f.finish index]⟩
  := by simp [step, List.modify_eq_set_getElem?]

/-- The pool in use when its last request has come to a settlement. -/
def settledBy {r : Request} (token : Token) (asked : Asked) (flights : List Flight)
  (settlement : Settlement r.Answer) : Service :=
  ⟨if settlement.isCancelled then token.cancel else token, asked,
    flights ++ [.returned r settlement.result]⟩

variable {r : Request} {cancelAfter : Option Nat}

/-- When all backends have been asked and a turn has found no attempt ready, some run settles the
dispatch as following it through the running attempts does. -/
theorem leads_of_running {running later : List (Arrival r.Answer)}
    (htoken : token.cancelled = false) (hperm : running.Perm later) (failures : List Failure)
    (now : Nat) :
  (step p ⟨token, asked, flights ++ [⟨r, ⟨[], running, []⟩, .waiting later.length failures⟩]⟩
      (.turn flights.length)).Leads p
    (settledBy token asked flights
      (.follow r.operation cancelAfter now (.waiting later.length failures) later))
  := by
  induction later generalizing running failures now with
  | nil =>
    rw [step_turn_last, htoken]
    apply Leads.refl
  | cons a rest ih =>
    -- nothing is ready, so the turn leaves the pool as it is
    rw [step_turn_last, htoken]
    show Leads p ⟨token, asked,
      flights ++ [⟨r, ⟨[], running, []⟩, .waiting (rest.length + 1) failures⟩]⟩ _
    rw [Settlement.follow]
    split
    case isTrue =>
      apply Leads.step .cancel
      apply Leads.step (.turn flights.length)
      show Leads p (step p ⟨token.cancel, asked, flights ++ [_]⟩ _) _
      rw [step_turn_last]
      apply Leads.refl
    case isFalse =>
      obtain ⟨index, hindex⟩ := List.mem_iff_getElem?.mp (hperm.mem_iff.mpr List.mem_cons_self)
      obtain ⟨hlength, hget⟩ := List.getElem?_eq_some_iff.mp hindex
      have hrest : (running.eraseIdx index).Perm rest := by
        have h := List.getElem_cons_eraseIdx_perm hlength
        rw [hget] at h
        apply (h.trans hperm).cons_inv
      have hfinish : (⟨[], running, []⟩ : Line r.Answer).finish index
          = ⟨[], running.eraseIdx index, [a]⟩ := by
        rw [Line.finish, hindex]
        rfl
      apply Leads.step (.finish flights.length index)
      apply Leads.step (.turn flights.length)
      rw [step_finish_last, Flight.finish, hfinish, step_turn_last, htoken]
      show Leads p ⟨token, asked, flights ++ [Flight.goOn r ⟨[], running.eraseIdx index, []⟩
        (Dispatch.turn r.operation false (some a.completion)
          (.waiting (rest.length + 1) failures))]⟩ _
      cases hturn : Dispatch.turn r.operation false (some a.completion)
          (.waiting (rest.length + 1) failures) with
      | settled result =>
        have hresult := Dispatch.ne_cancelled_of_turn hturn
        rw [settledBy, Settlement.isCancelled_eq_false hresult]
        apply Leads.refl
      | waiting pending' failures' =>
        obtain rfl := Dispatch.pending_of_turn hturn
        apply Leads.step (.turn flights.length)
        apply ih hrest

/-- When the backends from a place on have not been asked and no attempt is ready, some run settles
the dispatch as following it does through the attempts of these that end at once and then the
others in some order. -/
theorem leads_of_unasked {backends : List Backend} {first : Nat}
    {running later : List (Arrival r.Answer)} (htoken : token.cancelled = false)
    (hperm : later.Perm
      (running ++ (asked.arrivals p.limit r first backends).filter (!Arrival.isImmediate ·)))
    (hlater : ∀ a ∈ later, a.isImmediate = false) {pending : Nat} (failures : List Failure)
    {settlement : Settlement r.Answer} {immediate : List (Arrival r.Answer)}
    (himmediate : immediate = (asked.arrivals p.limit r first backends).filter Arrival.isImmediate)
    (hpending : pending = immediate.length + later.length)
    (hsettlement : settlement =
      .follow r.operation cancelAfter 0 (.waiting pending failures) (immediate ++ later)) :
  (step p ⟨token, asked,
      flights ++ [⟨r, ⟨backends.zipIdx first, running, []⟩, .waiting pending failures⟩]⟩
      (.turn flights.length)).Leads p
    (settledBy token (settlement.askedAfter r asked first backends.length) flights settlement)
  := by
  induction backends generalizing first running pending failures asked immediate with
  | nil =>
    have hrunning : running.Perm later := by
      rw [Asked.arrivals, List.zipIdx_nil, List.map_nil, List.filter_nil, List.append_nil] at hperm
      apply hperm.symm
    obtain rfl : immediate = [] := himmediate
    rw [List.length_nil, Nat.zero_add] at hpending
    rw [List.nil_append] at hsettlement
    subst hpending hsettlement
    rw [List.length_nil, Settlement.askedAfter_zero]
    apply leads_of_running htoken hrunning
  | cons b rest ih =>
    have hrest : asked.arrivals p.limit r first (b :: rest) = b.arrival first p.limit asked r ::
        (asked.add first r).arrivals p.limit r (first + 1) rest := by
      rw [Asked.arrivals_add (Nat.lt_succ_self first)]
      rfl
    have hplaces : ∀ a ∈ immediate ++ later, a.isImmediate = true → first ≤ a.place := by
      intro a ha hnow
      rcases List.mem_append.mp ha with ha | ha
      · rw [himmediate] at ha
        apply Asked.le_place_of_mem_arrivals (List.mem_filter.mp ha).1
      · rw [hlater a ha] at hnow
        cases hnow
    have hstarted : settlement.started first = true := by
      rw [hsettlement]
      apply Settlement.started_follow hplaces
    rw [hrest] at hperm himmediate
    rw [step_turn_last, htoken]
    cases hnow : (b.arrival first p.limit asked r).isImmediate with
    | false =>
      -- the turn goes on with the next backend
      have hpoll : Flight.turn p false asked
            ⟨r, ⟨(b :: rest).zipIdx first, running, []⟩, .waiting pending failures⟩
          = Flight.turn p false (asked.add first r)
            ⟨r, ⟨rest.zipIdx (first + 1), running ++ [b.arrival first p.limit asked r], []⟩,
              .waiting pending failures⟩ := by
        rw [Flight.turn_waiting, Flight.turn_waiting, List.zipIdx_cons,
          Line.poll_of_not_immediate hnow]
      rw [hpoll, ← htoken, ← step_turn_last, List.length_cons,
        Settlement.askedAfter_succ hstarted]
      rw [List.filter_cons_of_neg (by simp [hnow])] at himmediate
      rw [List.filter_cons_of_pos (by simp [hnow])] at hperm
      apply ih _ failures himmediate hpending hsettlement
      rw [List.append_assoc]
      apply hperm
    | true =>
      rw [List.filter_cons_of_pos hnow] at himmediate
      rw [List.filter_cons_of_neg (by simp [hnow])] at hperm
      subst himmediate
      rw [List.length_cons, Nat.add_right_comm] at hpending
      subst hpending
      rw [Flight.turn_waiting, List.zipIdx_cons, Line.poll_of_immediate hnow, List.length_cons]
      dsimp only [Option.map_some]
      have htime : (b.arrival first p.limit asked r).ending.time = 0 := beq_iff_eq.mp hnow
      rw [List.cons_append, Settlement.follow, htime, Settlement.isCancelledBy_zero,
        if_neg Bool.false_ne_true] at hsettlement
      cases hturn : Dispatch.turn r.operation false
          (some (b.arrival first p.limit asked r).completion) (.waiting _ failures) with
      | settled result =>
        have hresult := Dispatch.ne_cancelled_of_turn hturn
        rw [hturn] at hsettlement
        obtain rfl : settlement = ⟨result, 0, _, some first⟩ := hsettlement
        rw [settledBy, Settlement.isCancelled_eq_false hresult, Settlement.askedAfter_immediate]
        apply Leads.refl
      | waiting pending' failures' =>
        obtain rfl := Dispatch.pending_of_turn hturn
        rw [hturn] at hsettlement
        rw [Settlement.askedAfter_succ hstarted]
        apply Leads.step (.turn flights.length)
        apply ih hperm failures' rfl rfl hsettlement

end Service

/-! ### Requests over time -/

/-- What the backends of a pool have got over time. -/
def Session.asked (s : Session) : Asked :=
  fun place => (s.traffic[place]?.map Traffic.requests).getD []

namespace Pool

variable {p : Pool} {s : Session}

/-- The attempts of a session are those of all backends. -/
theorem arrivals_eq (hs : s.Fits p) (r : Request) :
  p.arrivals s.traffic r = s.asked.arrivals p.limit r 0 p.backends
  := by
  apply List.ext_getElem
  · rw [length_arrivals p hs, Asked.arrivals, List.length_map, List.length_zipIdx]
  · intro place hplace hplace'
    have htraffic : place < s.traffic.length := by
      rwa [hs, ← length_arrivals p hs r]
    simp [arrivals, Asked.arrivals, Backend.arrival, Session.asked, htraffic]

/-- The backends up to the last that is started get the request. -/
theorem asked_ask (hs : s.Fits p) (htoken : s.token.cancelled = false) (r : Request) :
  (p.ask r s).2.asked = (p.settlement s r).askedAfter r s.asked 0 p.backends.length
  := by
  have htraffic : (p.ask r s).2.traffic
      = List.zipWith ((p.settlement s r).account r) (p.arrivals s.traffic r) s.traffic := by
    rw [ask_eq p htoken]
  funext place
  rw [Session.asked, htraffic, Settlement.askedAfter, Session.asked]
  by_cases hplace : place < p.backends.length
  · have harrivals : place < (p.arrivals s.traffic r).length := by
      rwa [length_arrivals p hs]
    have hseen : place < s.traffic.length := by
      rwa [hs]
    have hat : (p.arrivals s.traffic r)[place].place = place := by
      simp [arrivals]
    simp only [List.getElem?_zipWith, List.getElem?_eq_getElem harrivals,
      List.getElem?_eq_getElem hseen, Option.map_some, Option.getD_some, Settlement.account, hat]
    by_cases hstarted : (p.settlement s r).started place = true
    · have hgot : 0 ≤ place ∧ place < 0 + p.backends.length
          ∧ (p.settlement s r).started place = true := ⟨Nat.zero_le _, by omega, hstarted⟩
      rw [if_pos hstarted, if_pos hgot]
    · rw [if_neg hstarted, if_neg (fun h => hstarted h.2.2)]
  · have hseen : s.traffic[place]? = none := by
      rw [List.getElem?_eq_none_iff, hs]
      omega
    rw [if_neg (by omega), List.getElem?_zipWith, hseen]
    cases (p.arrivals s.traffic r)[place]?
    all_goals rfl

/-- Asking a pool over time is one run of the pool in use. -/
theorem leads_ask (hs : s.Fits p) (r : Request) (flights : List Flight) :
  Service.Leads p ⟨s.token, s.asked, flights⟩
    ⟨(p.ask r s).2.token, (p.ask r s).2.asked, flights ++ [.returned r (p.ask r s).1]⟩
  := by
  apply Service.Leads.step (.ask r)
  apply Service.Leads.step (.turn flights.length)
  cases htoken : s.token.cancelled with
  | true =>
    show Service.Leads p (Service.step p ⟨s.token, s.asked, flights ++ [.new p r]⟩ _) _
    rw [Service.step_turn_last, htoken, ask, htoken]
    apply Service.Leads.refl
  | false =>
    have hask := ask_eq p htoken r
    rw [asked_ask hs htoken, hask]
    have hperm := Arrival.perm_inOrder (p.arrivals s.traffic r)
    have horder := Arrival.inOrder_eq (p.arrivals s.traffic r)
    have hlength : p.backends.length
        = ((p.arrivals s.traffic r).filter Arrival.isImmediate).length
          + ((Arrival.inOrder (p.arrivals s.traffic r)).filter
              (!Arrival.isImmediate ·)).length := by
      rw [← List.length_append, ← horder, hperm.length_eq, length_arrivals p hs]
    apply Service.leads_of_unasked htoken _ _ [] (congrArg _ (arrivals_eq hs r)) hlength
    · rw [settlement, length_arrivals p hs, ← horder]
      rfl
    · rw [List.nil_append, ← arrivals_eq hs]
      apply hperm.filter
    · intro a ha
      have hnow := (List.mem_filter.mp ha).2
      rwa [Bool.not_eq_true'] at hnow

end Pool

end BeaconLight

import Mathlib.Control.Monad.Basic
import BeaconLight.Proofs.Node.Reply
import BeaconLight.Proofs.Pool.Order
import BeaconLight.Proofs.Record.Fault
import BeaconLight.Proofs.Response.Encodings

/-!
# What a pool refuses

A request to a pool is refused with the error of one of its backends, which is no outage. So a pool
of one node refuses only a response that was served with success and cannot be used.
-/

namespace BeaconLight

variable {α : Type}

/-- A turn refuses with the attempt that it looks at. -/
theorem Dispatch.turn_refused {operation : Operation} {c : Completion α} {pending : Nat}
    {failures : List Failure} {f : Failure}
    (h : (waiting pending failures).turn operation false (some c) = settled (.error (.refused f))) :
  c = f.completion ∧ f.error.isConnectivity = false
  := by
  cases pending with
  | zero => cases h
  | succ pending =>
    rcases turn_some_cases operation pending failures c with ⟨f', -, hturn⟩ | ⟨hc, hturn⟩
    · cases hturn.symm.trans h
    · have hdecision : c.decision = .error (.refused f) :=
        settled.inj (hturn.symm.trans h)
      apply Completion.eq_of_decision hc hdecision

/-- A dispatch over time refuses with one of its arrivals. -/
theorem Settlement.follow_refused {operation : Operation} {cancelAfter : Option Nat} {now : Nat}
    {pending : Nat} {failures : List Failure} {arrivals : List (Arrival α)} {f : Failure}
    (h : (follow operation cancelAfter now (.waiting pending failures) arrivals).result
      = .error (.refused f)) :
  ∃ a ∈ arrivals, a.completion = f.completion ∧ f.error.isConnectivity = false
  := by
  -- A turn that settles the dispatch refuses with its arrival, and one that does not leaves the
  -- dispatch waiting for the rest.
  induction arrivals generalizing now pending failures with
  | nil => cases h
  | cons a rest ih =>
    rw [follow] at h
    split at h
    case isTrue => cases h
    case isFalse =>
      cases hturn : (Dispatch.waiting pending failures).turn operation false
          (some a.completion) with
      | settled result =>
        rw [hturn] at h
        obtain rfl : result = .error (.refused f) := h
        exact ⟨a, List.mem_cons_self, Dispatch.turn_refused hturn⟩
      | waiting pending' failures' =>
        rw [hturn] at h
        obtain ⟨b, hb, hrefused⟩ := ih h
        exact ⟨b, List.mem_cons_of_mem _ hb, hrefused⟩

namespace Pool

/-- A pool refuses a request with the attempt of one of its backends, whatever cancels its
token. -/
theorem ask_refused (p : Pool) {s : Session} {r : Request} {f : Failure}
    (h : (p.ask r s).1 = .error (.refused f)) :
  ∃ a ∈ p.arrivals s.traffic r, a.completion = f.completion ∧ f.error.isConnectivity = false
  := by
  unfold ask at h
  split at h
  case isTrue => cases h
  case isFalse =>
    obtain ⟨a, ha, hrefused⟩ := Settlement.follow_refused h
    exact ⟨a, (Arrival.perm_inOrder _).mem_iff.mp ha, hrefused⟩

/-- The pool of one node. -/
def ofNode (name : String) (n : Node) (transport : Transport) (limit : Nat) : Pool :=
  ⟨[⟨name, fun _ r => n.ask transport r⟩], limit⟩

/-- The only backend of the pool of a node makes the request of the node. -/
theorem completion_of_mem_arrivals_ofNode {name : String} {n : Node} {transport : Transport}
    {limit : Nat} {traffic : List Traffic} {r : Request} {a : Arrival r.Answer}
    (h : a ∈ (ofNode name n transport limit).arrivals traffic r) :
  a.completion = ⟨name, ((n.ask transport r).within limit).outcome⟩
  := by
  cases traffic with
  | nil => cases h
  | cons seen rest =>
    obtain rfl := List.mem_singleton.mp h
    rfl

/-- The pool of a node, which has not been asked for anything, comes to what the node does in
time. -/
theorem ask_ofNode {name : String} {n : Node} {transport : Transport} {limit after : Nat}
    {r : Request} {outcome : Except NodeError r.Answer}
    (h : n.ask transport r = .ends after outcome) (hafter : after ≤ limit) :
  ((ofNode name n transport limit).ask r (.fresh (ofNode name n transport limit) .own)).1
    = Dispatch.verdict r.operation [⟨name, outcome⟩]
  := by
  apply ask_singleton rfl rfl rfl h hafter

end Pool

/-- An attempt that ends in an error that is no outage under a limit ends in it by itself. -/
theorem Attempt.outcome_within {a : Attempt α} {limit : Nat} {e : NodeError}
    (h : (a.within limit).outcome = .error e) (he : e.isConnectivity = false) :
  ∃ after, a = .ends after (.error e)
  := by
  have hlimit : (.error e : Except NodeError α) ≠ .error (.outage (.timedOut limit)) := by
    rintro ⟨⟩
    cases he
  obtain ⟨after, -, hends⟩ := exists_of_within h hlimit
  exact ⟨after, hends⟩

namespace Node

variable {n : Node} {transport : Transport} {r : Request} {get : Get} {after : Nat}
  {reply : Reply}

/-- Errors of connectivity and errors of the data are told apart by the status of the reply. When a
reply comes back from a node, the request comes to what the status says, and the pool of that node
alone refuses it only for a response that was served with success and cannot be used. -/
theorem ask_followsStatus (hget : n.get r = .ok get)
    (hreply : transport get = .ends after (.ok reply)) :
  (∃ result, n.ask transport r = .ends after result ∧ r.FollowsStatus reply result) ∧
  ∀ name limit s f, ((Pool.ofNode name n transport limit).ask r s).1 = .error (.refused f) →
    reply.status = 200 ∧ ∃ e, r.decode reply.raw = .error e ∧ f = ⟨name, .response e⟩
  := by
  have hask := ask_of_reply hget hreply
  refine ⟨⟨_, hask, r.followsStatus_answer reply⟩, ?_⟩
  intro name limit s f h
  obtain ⟨a, ha, hcompletion, hf⟩ := Pool.ask_refused _ h
  rw [Pool.completion_of_mem_arrivals_ofNode ha] at hcompletion
  obtain ⟨backend, error⟩ := f
  obtain ⟨hname, houtcome⟩ := Completion.mk.inj hcompletion
  obtain ⟨_, hends⟩ := Attempt.outcome_within houtcome hf
  obtain ⟨-, hanswer⟩ := Attempt.ends.inj (hask.symm.trans hends)
  by_cases hstatus : reply.status = 200
  · refine ⟨hstatus, ?_⟩
    rcases r.answer_of_success hstatus with ⟨response, -, hok⟩ | ⟨e, he, herror⟩
    · rw [hok] at hanswer
      cases hanswer
    · obtain rfl := Except.error.inj (herror.symm.trans hanswer)
      obtain rfl := hname
      exact ⟨e, he, rfl⟩
  · have hconnectivity :=
      ((r.followsStatus_answer reply).isConnectivity_iff _ hanswer).mpr hstatus
    rw [hf] at hconnectivity
    cases hconnectivity

/-- A network in which nothing is found, as is known after three milliseconds. -/
def unfinding : Transport :=
  fun _ => .ends 3 (.ok ⟨404, [], []⟩)

/-- A reply with a finality update of the first fork with light client data in SSZ, as its headers
say. -/
def finalityReply (body : List UInt8) : Reply :=
  ⟨200, [("Content-Type", Utf8.encode Encoding.sszType.toList),
      ("Eth-Consensus-Version", Utf8.encode LightFork.altair.name.toList)], body⟩

/-- A network in which every reply is this one, as is known after three milliseconds. -/
def serving (body : List UInt8) : Transport :=
  fun _ => .ends 3 (.ok (finalityReply body))

/-- When nothing is found, there is no finality update yet, while the specification is missing.
A finality update that is served is the answer when its body is the whole of it, and is an error of
the response when that is cut, for which the pool of the node refuses the request. -/
theorem ask_followsStatus_replies :
  let n : Node := ⟨"http://node", .json⟩
  let url (path : List String) : WebUrl := ⟨.http, .domain "node", 80, path, none⟩
  let p := Pool.ofNode "node" n (serving [0]) 10
  let cut : ResponseError := .badRecord (.badLayout "LightClientFinalityUpdate"
    "InvalidByteLength \x7b len: 1, expected: 584 \x7d")
  n.get .finalityUpdate
    = .ok ⟨url ["eth", "v1", "beacon", "light_client", "finality_update"], .json⟩ ∧
  n.get .spec = .ok ⟨url ["eth", "v1", "config", "spec"], .json⟩ ∧
  n.ask unfinding .finalityUpdate = .ends 3 (.ok none) ∧
  n.ask unfinding .spec = .ends 3 (.error (.outage (.notFound ⟨404, "Not Found", ""⟩))) ∧
  n.ask (serving Versioned.zeroFinality.toSsz) .finalityUpdate
    = .ends 3 (.ok (some .zeroFinality)) ∧
  n.ask (serving [0]) .finalityUpdate = .ends 3 (.error (.response cut)) ∧
  ∃ e, Request.decode .finalityUpdate (finalityReply [0]).raw = .error e ∧
    (p.ask .finalityUpdate (.fresh p .own)).1 = .error (.refused ⟨"node", .response e⟩)
  := by
  intro n url p cut
  have hfinality : n.get .finalityUpdate
      = .ok ⟨url ["eth", "v1", "beacon", "light_client", "finality_update"], .json⟩ := by
    decide +kernel
  have hspec : n.get .spec = .ok ⟨url ["eth", "v1", "config", "spec"], .json⟩ := by
    decide +kernel
  refine ⟨hfinality, hspec, ?_, ?_, ?_, ?_⟩
  · obtain ⟨result, hask, hfollows⟩ :=
      (ask_followsStatus hfinality (rfl : unfinding _ = .ends 3 (.ok ⟨404, [], []⟩))).1
    obtain ⟨x, rfl, rfl⟩ := hfollows.nothing_iff.mpr ⟨rfl, nofun, nofun⟩
    exact hask
  · obtain ⟨result, hask, hfollows⟩ :=
      (ask_followsStatus hspec (rfl : unfinding _ = .ends 3 (.ok ⟨404, [], []⟩))).1
    rw [hask, hfollows.notFound rfl (.inl rfl)]
    have hfault : Fault.ofReply ⟨404, [], []⟩ = ⟨404, "Not Found", ""⟩ := by decide +kernel
    rw [hfault]
  · obtain ⟨response, hdata, hdecode, -⟩ :=
      (encodingsAgree_record .zeroFinality ⟨[], .nil, List.forall_mem_nil _⟩).decoded
    obtain ⟨result, hask, hfollows⟩ := (ask_followsStatus hfinality
      (rfl : serving _ _ = .ends 3 (.ok (finalityReply Versioned.zeroFinality.toSsz)))).1
    rw [hask, hfollows.decoded rfl response hdecode, hdata]
    rfl
  · have hstatus := ask_followsStatus hfinality
      (rfl : serving _ _ = .ends 3 (.ok (finalityReply [0])))
    obtain ⟨result, hask, hfollows⟩ := hstatus.1
    have hcut : Request.decode .finalityUpdate (finalityReply [0]).raw = .error cut := rfl
    rw [hfollows.undecodable rfl _ hcut] at hask
    have hrefused : (p.ask .finalityUpdate (.fresh p .own)).1
        = .error (.refused ⟨"node", .response cut⟩) := by
      apply (Pool.ask_ofNode hask (by decide)).trans
      rfl
    obtain ⟨-, e, hdecode, hf⟩ := hstatus.2 "node" 10 _ _ hrefused
    refine ⟨hask, e, hdecode, ?_⟩
    rw [hrefused, hf]

end Node

end BeaconLight

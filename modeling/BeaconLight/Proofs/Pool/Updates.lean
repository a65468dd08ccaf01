import BeaconLight.Pool.Config
import BeaconLight.Proofs.Node.Updates
import BeaconLight.Proofs.Pool.Replay
import BeaconLight.Proofs.Response.Encodings

/-!
# Updates of a pool

The updates that a pool answers with are those of one of its nodes: a list that one response is
decoded to, as it is, no longer than was asked for and of one fork.
-/

namespace BeaconLight

/-- A node of a pool under its name, and how the network goes after the requests that it has
got. -/
structure Member where
  name : String
  node : Node
  network : List Request → Transport

/-- The node as a backend. -/
def Member.backend (m : Member) : Backend :=
  ⟨m.name, fun seen r => m.node.ask (m.network seen) r⟩

/-- The pool of some nodes. -/
def Pool.ofMembers (members : List Member) (limit : Nat) : Pool :=
  ⟨members.map Member.backend, limit⟩

/-- The pool of a configuration is one of nodes. -/
theorem PoolConfig.exists_members {c : PoolConfig} {transport : Transport} {p : Pool}
    (h : c.pool transport = .ok p) :
  ∃ members, p = .ofMembers members c.limit
  := by
  rw [pool, Pool.ofBackends] at h
  split at h
  case isTrue => cases h
  case isFalse =>
    cases h
    refine ⟨c.nodes.map fun named => ⟨named.1, named.2, fun _ => transport⟩, ?_⟩
    rw [Pool.ofMembers, List.map_map]
    rfl

/-! ### Attempts that end in data -/

/-- A request of a node that ends in data has been sent, and a reply has come back. -/
theorem Node.exists_reply_of_ask {n : Node} {transport : Transport} {r : Request} {after : Nat}
    {value : r.Answer} (h : n.ask transport r = .ends after (.ok value)) :
  ∃ get reply, n.get r = .ok get ∧ transport get = .ends after (.ok reply) ∧
    r.answer reply = .ok value
  := by
  cases hget : n.get r with
  | error e =>
    rw [ask, attempt, hget] at h
    cases h
  | ok get =>
    cases htransport : transport get with
    | hangs =>
      rw [ask, attempt, hget] at h
      dsimp only at h
      rw [htransport] at h
      cases h
    | ends after' outcome =>
      cases outcome with
      | error e =>
        rw [ask, attempt, hget] at h
        dsimp only at h
        rw [htransport] at h
        cases h
      | ok reply =>
        rw [ask_of_reply hget htransport] at h
        obtain ⟨rfl, hanswer⟩ := Attempt.ends.inj h
        exact ⟨get, reply, rfl, htransport, hanswer⟩

/-- A node serves a list of updates: a reply with success comes back from it that is decoded to
exactly the list. -/
def Member.Serves (m : Member) (start count : Nat) (us : List (Versioned .update)) : Prop :=
  ∃ seen get after reply response,
    m.node.get (.updates start count) = .ok get ∧
    m.network seen get = .ends after (.ok reply) ∧ reply.status = 200 ∧
    reply.raw.decodeUpdates = .ok response ∧ response.data = us

/-- What a list of updates that some nodes are asked for keeps. -/
structure ServedUpdates (members : List Member) (start count : Nat)
    (us : List (Versioned .update)) : Prop where
  /-- One of the nodes serves exactly the list. -/
  served : ∃ m ∈ members, m.Serves start count us
  /-- It is no longer than was asked for. -/
  length_le : us.length ≤ count
  /-- All updates are of one fork. -/
  fork : ∃ fork, ∀ x ∈ us, x.fork = fork

/-- Decoded updates are of one fork. -/
theorem RawResponse.exists_fork_of_decodeUpdates {raw : RawResponse}
    {response : Response (List (Versioned .update))} (h : raw.decodeUpdates = .ok response) :
  ∃ fork, ∀ x ∈ response.data, x.fork = fork
  := by
  obtain ⟨outcome, houtcome⟩ := raw.exists_outcome
  cases outcome with
  | error e =>
    rw [raw.follows_decodeUpdates.refused e houtcome] at h
    cases h
  | ok negotiated =>
    obtain ⟨fork, content⟩ := negotiated
    exact ⟨fork, raw.follows_decodeUpdates.ofFork fork content houtcome response h⟩

namespace Pool

variable {members : List Member} {limit start count : Nat} {us : List (Versioned .update)}

/-- An attempt of a node that ends in updates is that of one that serves them. -/
theorem servedUpdates_of_attempts {a : Arrival (Request.updates start count).Answer}
    (h : (ofMembers members limit).Attempts (.updates start count) a)
    (houtcome : a.ending.outcome = .ok (some us)) :
  ServedUpdates members start count us
  := by
  obtain ⟨b, hb, place, asked, rfl⟩ := h
  obtain ⟨m, hm, rfl⟩ := List.mem_map.mp hb
  obtain ⟨after, -, hask⟩ := Attempt.exists_of_within houtcome (by rintro ⟨⟩)
  obtain ⟨get, reply, hget, hreply, hanswer⟩ := Node.exists_reply_of_ask hask
  obtain ⟨hstatus, hcount, response, hdecode, rfl⟩ := Request.decodeUpdates_of_answer hanswer
  constructor
  case served =>
    exact ⟨m, hm, _, get, after, reply, response, hget, hreply, hstatus, hdecode, rfl⟩
  case length_le => exact hcount
  case fork => apply RawResponse.exists_fork_of_decodeUpdates hdecode

/-- In every run, what a request for updates is answered with is served by one node. -/
theorem servedUpdates_of_run {token : Token} {asked : Asked} {actions : List Action}
    {line : Line (Request.updates start count).Answer}
    (h : ⟨.updates start count, line, .settled (.ok (some us))⟩
      ∈ ((Service.idle token asked).run (ofMembers members limit) actions).flights) :
  ServedUpdates members start count us
  := by
  have hsound := (Service.sound_idle (ofMembers members limit) token asked).run actions
  obtain ⟨i, hi⟩ := List.mem_iff_getElem?.mp h
  obtain ⟨a, ha, houtcome⟩ := (hsound i _ hi).answer _ rfl
  apply servedUpdates_of_attempts ha houtcome

/-- Over time, what a request for updates is answered with is served by one node. -/
theorem servedUpdates_of_ask {s : Session} (hs : s.Fits (ofMembers members limit))
    (h : ((ofMembers members limit).ask (.updates start count) s).1 = .ok (some us)) :
  ServedUpdates members start count us
  := by
  obtain ⟨actions, hrun⟩ := leads_ask hs (.updates start count) []
  rw [h] at hrun
  have hanswered : ⟨.updates start count, .empty, .settled (.ok (some us))⟩
      ∈ ((Service.idle s.token s.asked).run (ofMembers members limit) actions).flights := by
    rw [Service.idle, hrun]
    apply List.mem_singleton_self
  apply servedUpdates_of_run hanswered

/-- A pool of one node that has not been asked for anything comes to what the node does in time. -/
theorem ask_ofMembers_singleton {m : Member} {r : Request} {after limit : Nat}
    {outcome : Except NodeError r.Answer} (h : m.node.ask (m.network []) r = .ends after outcome)
    (hafter : after ≤ limit) :
  ((ofMembers [m] limit).ask r (.fresh (ofMembers [m] limit) .own)).1
    = Dispatch.verdict r.operation [⟨m.name, outcome⟩]
  := by
  apply ask_singleton rfl rfl rfl h hafter

/-- A pool of nodes never answers with more updates than were asked for, nor with a mixture. In
every run, and over time, the updates that it answers with are exactly those that one response with
success is decoded to, no more than were asked for and of one fork. A response with success that is
decoded to more is refused with their number, and one with an element that is not read is refused
for that however many there are; a pool that looks at such a response refuses the request with
the error and the name of the node. The pool of a configuration is one of nodes. -/
theorem updates_served (members : List Member) (limit start count : Nat) :
  (∀ token asked actions line us,
    (⟨.updates start count, line, .settled (.ok (some us))⟩ : Flight)
      ∈ ((Service.idle token asked).run (ofMembers members limit) actions).flights →
    ServedUpdates members start count us) ∧
  (∀ s us, Session.Fits (ofMembers members limit) s →
    ((ofMembers members limit).ask (.updates start count) s).1 = .ok (some us) →
    ServedUpdates members start count us) ∧
  (∀ (m : Member) seen get after reply, m.node.get (.updates start count) = .ok get →
    m.network seen get = .ends after (.ok reply) → reply.status = 200 →
    ∃ result : UpdatesResult,
      m.node.ask (m.network seen) (.updates start count) = .ends after result ∧
      UpdatesReply count reply result ∧
      ∀ e, result = .error e → ∀ pending failures,
        (Dispatch.waiting (pending + 1) failures).turn .updates false (some ⟨m.name, result⟩)
          = .settled (.error (.refused ⟨m.name, e⟩))) ∧
  ∀ (c : PoolConfig) transport p, c.pool transport = .ok p →
    ∃ members, p = ofMembers members c.limit
  := by
  refine ⟨?_, ?_, ?_, ?_⟩
  · intro token asked actions line us h
    apply servedUpdates_of_run h
  · intro s us hs h
    apply servedUpdates_of_ask hs h
  · intro m seen get after reply hget hreply hstatus
    have hupdates := Request.updatesReply_answer hstatus start count
    refine ⟨_, Node.ask_of_reply hget hreply, hupdates, ?_⟩
    intro e he pending failures
    have hconnectivity := hupdates.isConnectivity e he
    rw [he]
    apply Dispatch.turn_decisive
    rintro ⟨e', ⟨⟩, houtage⟩
    rw [hconnectivity] at houtage
    cases houtage
  · intro c transport p h
    apply PoolConfig.exists_members h

end Pool

/-! ### A node with two updates -/

/-- The update of the first fork with light client data whose bytes are all zero. -/
def Versioned.zeroPeriod : Versioned .update :=
  let header : AltairHeader := ⟨⟨0, 0, zeros 32, zeros 32, zeros 32⟩⟩
  ⟨.altair, header, ⟨⟨List.replicate 512 (zeros 48), List.length_replicate⟩, zeros 48⟩,
    ⟨List.replicate 5 (zeros 32), List.length_replicate⟩, header,
    ⟨List.replicate 6 (zeros 32), List.length_replicate⟩, ⟨zeros 64, zeros 96⟩, 0⟩

namespace Member

/-- A reply with that update twice, in SSZ. -/
def zerosReply : Reply :=
  ⟨200, [("content-type", Utf8.encode Encoding.sszType.toList),
      ("eth-consensus-version", Utf8.encode LightFork.altair.name.toList)],
    updatesBody (List.replicate 2 (Versioned.zeros 4, .zeroPeriod))⟩

/-- A node that serves this reply after three milliseconds. -/
def zeros : Member :=
  ⟨"zeros", ⟨"http://node", .ssz⟩, fun _ _ => .ends 3 (.ok zerosReply)⟩

/-- The reply is decoded to the two updates. -/
theorem exists_decodeUpdates_zerosReply :
  ∃ response, zerosReply.raw.decodeUpdates = .ok response ∧
    response.data = [.zeroPeriod, .zeroPeriod]
  := by
  have hfork : ∀ chunk ∈ List.replicate 2 (Versioned.zeros 4, Versioned.zeroPeriod),
      chunk.2.fork = .altair := by
    decide
  obtain ⟨response, hdata, hdecode, -⟩ :=
    (encodingsAgree_updates hfork ⟨[], .nil, List.forall_mem_nil _⟩).decoded
  exact ⟨response, hdecode, hdata⟩

end Member

/-- The two updates are the answer when two are asked for, and when one is, the request is refused
for their number. -/
theorem Pool.updates_served_zeros :
  let p := ofMembers [.zeros] 10
  let s := Session.fresh p .own
  s.Fits p ∧
  (p.ask (.updates 0 2) s).1 = .ok (some [.zeroPeriod, .zeroPeriod]) ∧
  ServedUpdates [.zeros] 0 2 [.zeroPeriod, .zeroPeriod] ∧
  (p.ask (.updates 0 1) s).1
    = .error (.refused ⟨"zeros", .response (.tooManyUpdates 1 2)⟩)
  := by
  intro p s
  let get (query : String) : Get :=
    ⟨⟨.http, .domain "node", 80, ["eth", "v1", "beacon", "light_client", "updates"], some query⟩,
      .ssz⟩
  obtain ⟨response, hdecode, hdata⟩ := Member.exists_decodeUpdates_zerosReply
  have hlength : response.data.length = 2 := congrArg List.length hdata
  have htwo : Member.zeros.node.get (.updates 0 2) = .ok (get "start_period=0&count=2") := by
    decide +kernel
  have hone : Member.zeros.node.get (.updates 0 1) = .ok (get "start_period=0&count=1") := by
    decide +kernel
  have hs : s.Fits p := Session.fits_fresh p .own
  have hanswer : (p.ask (.updates 0 2) s).1 = .ok (some [.zeroPeriod, .zeroPeriod]) := by
    obtain ⟨result, hask, hupdates, -⟩ :=
      (updates_served [.zeros] 10 0 2).2.2.1 .zeros [] _ 3 Member.zerosReply htwo rfl rfl
    rw [ask_ofMembers_singleton hask (by decide), hupdates.answer response hdecode hlength.le,
      hdata]
    rfl
  refine ⟨hs, hanswer, (updates_served [.zeros] 10 0 2).2.1 s _ hs hanswer, ?_⟩
  obtain ⟨result, hask, hupdates, -⟩ :=
    (updates_served [.zeros] 10 0 1).2.2.1 .zeros [] _ 3 Member.zerosReply hone rfl rfl
  have hcount : 1 < response.data.length := by omega
  rw [ask_ofMembers_singleton hask (by decide), hupdates.tooMany response hdecode hcount, hlength]
  rfl

end BeaconLight

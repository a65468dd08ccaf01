import BeaconLight.Proofs.Node.Reply
import BeaconLight.Proofs.Response.Order

/-!
# Replies to requests for updates

A list of updates is an answer when it is decoded whole and is no longer than was asked for. It is
never cut short. One that is too long is refused for its length once all of its elements are read,
and before that for the first that is not.
-/

namespace BeaconLight

/-- The answer to a request for updates, or why there is none. -/
abbrev UpdatesResult : Type := Except NodeError (Option (List (Versioned .update)))

/-- What the elements of a list come to where at most `count` updates were asked for. `Reads` says
which record an element is read as, and `Blames` what is reported about the element of an index. -/
structure CountedOrFirst {α : Type} (fork : LightFork) (count : Nat) (elements : List α)
    (Reads : α → Versioned .update → Prop) (Blames : Nat → α → RecordError → Prop)
    (result : UpdatesResult) : Prop where
  /-- As many as were asked for, all of them read, are the answer, one for each and in order. -/
  answer : (∀ a ∈ elements, ∃ x, Reads a x) → elements.length ≤ count →
    ∃ us, List.Forall₂ Reads elements us ∧ (∀ x ∈ us, x.fork = fork) ∧ result = .ok (some us)
  /-- More than were asked for, all of them read, are refused with their number. -/
  tooMany : (∀ a ∈ elements, ∃ x, Reads a x) → count < elements.length →
    result = .error (.response (.tooManyUpdates count elements.length))
  /-- However many there are, the first that is not read is reported. -/
  first : (∃ a ∈ elements, ∀ x, ¬ Reads a x) →
    ∃ i a cause, elements[i]? = some a ∧ (∀ x, ¬ Reads a x) ∧
      (∀ j < i, ∀ b, elements[j]? = some b → ∃ x, Reads b x) ∧
      Blames i a cause ∧ result = .error (.response (.badRecord cause))

/-- What a reply with success to a request for at most `count` updates comes to. -/
structure UpdatesReply (count : Nat) (reply : Reply) (result : UpdatesResult) : Prop where
  /-- A list that is no longer than was asked for is the answer as it is. -/
  answer : ∀ response, reply.raw.decodeUpdates = .ok response → response.data.length ≤ count →
    result = .ok (some response.data)
  /-- A longer list is refused with its length. -/
  tooMany : ∀ response, reply.raw.decodeUpdates = .ok response → count < response.data.length →
    result = .error (.response (.tooManyUpdates count response.data.length))
  /-- A list that is not decoded is refused for that. -/
  undecodable : ∀ e, reply.raw.decodeUpdates = .error e → result = .error (.response e)
  /-- None of these errors is one of connectivity. -/
  isConnectivity : ∀ e, result = .error e → e.isConnectivity = false
  /-- In JSON the elements are those of the data. -/
  json : ∀ fork members items, reply.raw.negotiate = .ok (fork, .json members) →
    Json.find? Response.dataField members = some (.array items) →
    CountedOrFirst fork count items
      (fun item x => Versioned.ofJson .update fork.toFork item "" = .ok x)
      (fun i item cause => Versioned.ofJson .update fork.toFork item
        (Section.element Response.dataField i) = .error cause)
      result
  /-- In SSZ the elements are the chunks of the body. -/
  ssz : ∀ fork bytes chunks, reply.raw.negotiate = .ok (fork, .ssz bytes) →
    Chunk.Frames chunks bytes →
    CountedOrFirst fork count chunks
      (fun chunk x => Versioned.ofSsz .update fork.toFork chunk.payload = .ok x)
      (fun i chunk cause => ∃ reason, Versioned.ofSsz .update fork.toFork chunk.payload
          = .error (.badLayout Kind.update.name reason) ∧
        cause = .badLayout Kind.update.name ("chunk " ++ Text.decimal i ++ ": " ++ reason))
      result

namespace Request

variable {start count : Nat} {reply : Reply}

/-! ### The limit -/

/-- A list that is no longer than was asked for is the answer. -/
theorem answer_updates_of_le (hstatus : reply.status = 200)
    {response : Response (List (Versioned .update))}
    (h : reply.raw.decodeUpdates = .ok response) (hcount : response.data.length ≤ count) :
  (updates start count).answer reply = .ok (some response.data)
  := by
  have hdecode : (updates start count).decode reply.raw = .ok response := by
    rw [decode, h]
    apply if_pos hcount
  apply answer_of_decode_ok _ hstatus hdecode

/-- A longer list is refused with its length. -/
theorem answer_updates_of_lt (hstatus : reply.status = 200)
    {response : Response (List (Versioned .update))}
    (h : reply.raw.decodeUpdates = .ok response) (hcount : count < response.data.length) :
  (updates start count).answer reply
    = .error (.response (.tooManyUpdates count response.data.length))
  := by
  have hdecode : (updates start count).decode reply.raw
      = .error (.tooManyUpdates count response.data.length) := by
    rw [decode, h]
    apply if_neg (Nat.not_le_of_lt hcount)
  apply answer_of_decode_error _ hstatus hdecode

theorem answer_updates_of_error (hstatus : reply.status = 200) {e : ResponseError}
    (h : reply.raw.decodeUpdates = .error e) :
  (updates start count).answer reply = .error (.response e)
  := by
  have hdecode : (updates start count).decode reply.raw = .error e := by
    rw [decode, h]
    rfl
  apply answer_of_decode_error _ hstatus hdecode

/-- Updates that are the answer are decoded from a reply with success, and are no more than were
asked for. -/
theorem decodeUpdates_of_answer {us : List (Versioned .update)}
    (h : (updates start count).answer reply = .ok (some us)) :
  reply.status = 200 ∧ us.length ≤ count ∧
    ∃ response, reply.raw.decodeUpdates = .ok response ∧ response.data = us
  := by
  by_cases hstatus : reply.status = 200
  · refine ⟨hstatus, ?_⟩
    cases hdecode : reply.raw.decodeUpdates with
    | error e =>
      rw [answer_updates_of_error hstatus hdecode] at h
      cases h
    | ok response =>
      by_cases hcount : response.data.length ≤ count
      · rw [answer_updates_of_le hstatus hdecode hcount] at h
        cases h
        exact ⟨hcount, response, rfl, rfl⟩
      · rw [answer_updates_of_lt hstatus hdecode (Nat.lt_of_not_le hcount)] at h
        cases h
  · rcases answer_of_not_success _ hstatus with ⟨outage, houtage⟩ | ⟨hfound, hspec, hbootstrap⟩
    · rw [houtage] at h
      cases h
    · obtain ⟨x, hx, hnone⟩ := answer_of_nothing _ hfound hspec hbootstrap
      rw [hx] at h
      cases h
      cases hnone

end Request

/-! ### Elements -/

/-- Elements that are decoded all or up to the first at fault come to what their number and that
fault say. -/
theorem RawResponse.AllOrFirst.counted {α : Type} {fork : LightFork} {elements : List α}
    {Reads : α → Versioned .update → Prop} {Blames Blames' : Nat → α → RecordError → Prop}
    {start count : Nat} {reply : Reply} (hstatus : reply.status = 200)
    (h : AllOrFirst fork elements Reads Blames reply.raw.decodeUpdates)
    (hblames : ∀ i a cause, Blames i a cause → Blames' i a cause) :
  CountedOrFirst fork count elements Reads Blames' ((Request.updates start count).answer reply)
  := by
  constructor
  case answer =>
    intro hall hcount
    obtain ⟨response, hresponse⟩ := h.succeeds_iff.mpr hall
    have hreads := h.inOrder response hresponse
    rw [hreads.length_eq] at hcount
    refine ⟨response.data, hreads, h.ofFork response hresponse, ?_⟩
    apply Request.answer_updates_of_le hstatus hresponse hcount
  case tooMany =>
    intro hall hcount
    obtain ⟨response, hresponse⟩ := h.succeeds_iff.mpr hall
    have hlength := (h.inOrder response hresponse).length_eq
    rw [hlength] at hcount ⊢
    apply Request.answer_updates_of_lt hstatus hresponse hcount
  case first =>
    rintro ⟨a, ha, hnone⟩
    cases hresult : reply.raw.decodeUpdates with
    | ok response =>
      obtain ⟨x, hx⟩ := h.succeeds_iff.mp ⟨response, hresult⟩ a ha
      exact absurd hx (hnone x)
    | error e =>
      obtain ⟨i, b, cause, hb, hfault, hbefore, hblamed, rfl⟩ := h.first e hresult
      refine ⟨i, b, cause, hb, hfault, hbefore, hblames i b cause hblamed, ?_⟩
      apply Request.answer_updates_of_error hstatus hresult

/-- A reply with success to a request for updates comes to what its list says. -/
theorem Request.updatesReply_answer {reply : Reply} (hstatus : reply.status = 200)
    (start count : Nat) :
  UpdatesReply count reply ((updates start count).answer reply)
  := by
  constructor
  case answer =>
    intro response h hcount
    apply answer_updates_of_le hstatus h hcount
  case tooMany =>
    intro response h hcount
    apply answer_updates_of_lt hstatus h hcount
  case undecodable =>
    intro e h
    apply answer_updates_of_error hstatus h
  case isConnectivity =>
    intro e he
    rcases answer_of_success (updates start count) hstatus with ⟨response, -, hok⟩ | ⟨e', -, herror⟩
    · rw [hok] at he
      cases he
    · rw [herror] at he
      cases he
      rfl
  case json =>
    intro fork members items hnegotiate hdata
    apply (RawResponse.allOrFirst_of_json hnegotiate hdata).counted hstatus
    intro i item cause hblamed
    apply hblamed.1
  case ssz =>
    intro fork bytes chunks hnegotiate hframes
    apply (RawResponse.allOrFirst_of_ssz hnegotiate hframes).counted hstatus
    intro i chunk cause hblamed
    apply hblamed

end BeaconLight

import Mathlib.Logic.Basic
import BeaconLight.Node.Client

/-!
# What a reply comes to

The status of a reply decides what the request comes to. Only the status of success has the body
looked at for data, and what cannot be used there is an error of the response. Every other status is
an outage, whatever the body, unless it says that there is nothing yet where an operation allows
that.
-/

namespace BeaconLight

namespace Operation

variable {α β : Type}

/-- The data in an answer, if there is any. -/
def data? : (operation : Operation) → operation.Served α → Option α
  | .spec, x | .bootstrap, x => some x
  | .updates, x | .finalityUpdate, x | .optimisticUpdate, x => x

theorem data?_serve (operation : Operation) (x : α) :
  operation.data? (operation.serve x) = some x
  := by
  cases operation
  all_goals rfl

theorem mapServed_serve (operation : Operation) (f : α → β) (x : α) :
  operation.mapServed f (operation.serve x) = operation.serve (f x)
  := by
  cases operation
  all_goals rfl

theorem nothing?_eq_none_iff (operation : Operation) :
  (operation.nothing? : Option (operation.Served α)) = none ↔
    operation = .spec ∨ operation = .bootstrap
  := by
  cases operation
  all_goals simp [nothing?]

/-- Where nothing is allowed, it is an answer without data. -/
theorem data?_mapServed_nothing {operation : Operation} (f : α → β) {nothing : operation.Served α}
    (h : operation.nothing? = some nothing) :
  operation.data? (operation.mapServed f nothing) = none
  := by
  cases operation
  case spec => cases h
  case bootstrap => cases h
  all_goals
    cases h
    rfl

end Operation

/-! ### Replies -/

namespace Request

/-- What a reply comes to as an answer. -/
def answer (r : Request) (reply : Reply) : Except NodeError r.Answer :=
  (r.read reply).map (r.operation.mapServed Response.data)

/-- What a request comes to, by the status of the reply. -/
structure FollowsStatus (r : Request) (reply : Reply) (result : Except NodeError r.Answer) :
    Prop where
  /-- With success, what the decoder gives is the answer. -/
  decoded : reply.status = 200 → ∀ response, r.decode reply.raw = .ok response →
    result = .ok (r.operation.serve response.data)
  /-- With success, what the decoder reports is the error. -/
  undecodable : reply.status = 200 → ∀ e, r.decode reply.raw = .error e →
    result = .error (.response e)
  /-- The specification and a bootstrap that are not found are missing. -/
  notFound : reply.status = 404 → r.operation = .spec ∨ r.operation = .bootstrap →
    result = .error (.outage (.notFound (Fault.ofReply reply)))
  /-- A fault in the node is reported as such. -/
  internal : reply.status = 500 → result = .error (.outage (.internal (Fault.ofReply reply)))
  /-- Any other status is reported with the body. -/
  other : reply.status ≠ 200 → reply.status ≠ 404 → reply.status ≠ 500 →
    result = .error (.outage (.status reply.status reply.text))
  /-- An error is one of connectivity exactly when the status is not success. -/
  isConnectivity_iff : ∀ e, result = .error e → (e.isConnectivity = true ↔ reply.status ≠ 200)
  /-- There is an answer without data exactly when what was asked for is not found and is neither
  the specification nor a bootstrap. -/
  nothing_iff : (∃ x, result = .ok x ∧ r.operation.data? x = none) ↔
    reply.status = 404 ∧ r.operation ≠ .spec ∧ r.operation ≠ .bootstrap

variable (r : Request) {reply : Reply}

theorem answer_of_decode_ok (hstatus : reply.status = Status.success)
    {response : Response r.operation.Payload} (h : r.decode reply.raw = .ok response) :
  r.answer reply = .ok (r.operation.serve response.data)
  := by
  have hread : r.read reply = .ok (r.operation.serve response) := by
    rw [read, if_pos hstatus, h]
  rw [answer, hread, ← Operation.mapServed_serve]
  rfl

theorem answer_of_decode_error (hstatus : reply.status = Status.success) {e : ResponseError}
    (h : r.decode reply.raw = .error e) :
  r.answer reply = .error (.response e)
  := by
  have hread : r.read reply = .error (.response e) := by
    rw [read, if_pos hstatus, h]
  rw [answer, hread]
  rfl

theorem answer_of_notFound (hstatus : reply.status = Status.notFound)
    (h : r.operation = .spec ∨ r.operation = .bootstrap) :
  r.answer reply = .error (.outage (.notFound (Fault.ofReply reply)))
  := by
  have hsuccess : reply.status ≠ Status.success := hstatus.trans_ne (by decide)
  have hread : r.read reply = .error (.outage (.notFound (Fault.ofReply reply))) := by
    rw [read, if_neg hsuccess, if_pos hstatus, (r.operation.nothing?_eq_none_iff).mpr h]
  rw [answer, hread]
  rfl

/-- There is nothing when what is not found is anything else. -/
theorem answer_of_nothing (hstatus : reply.status = Status.notFound)
    (hspec : r.operation ≠ .spec) (hbootstrap : r.operation ≠ .bootstrap) :
  ∃ x, r.answer reply = .ok x ∧ r.operation.data? x = none
  := by
  have hsuccess : reply.status ≠ Status.success := hstatus.trans_ne (by decide)
  obtain ⟨nothing, hnothing⟩ :
      ∃ nothing : r.operation.Served (Response r.operation.Payload),
        r.operation.nothing? = some nothing := by
    apply Option.ne_none_iff_exists'.mp
    intro hnone
    rcases r.operation.nothing?_eq_none_iff.mp hnone with h | h
    · exact hspec h
    · exact hbootstrap h
  have hread : r.read reply = .ok nothing := by
    rw [read, if_neg hsuccess, if_pos hstatus, hnothing]
  refine ⟨_, ?_, Operation.data?_mapServed_nothing Response.data hnothing⟩
  rw [answer, hread]
  rfl

/-- A fault in the node is an outage. -/
theorem answer_of_internal (hstatus : reply.status = Status.internalError) :
  r.answer reply = .error (.outage (.internal (Fault.ofReply reply)))
  := by
  have hsuccess : reply.status ≠ Status.success := hstatus.trans_ne (by decide)
  have hfound : reply.status ≠ Status.notFound := hstatus.trans_ne (by decide)
  have hread : r.read reply = .error (.outage (.internal (Fault.ofReply reply))) := by
    rw [read, if_neg hsuccess, if_neg hfound, if_pos hstatus]
  rw [answer, hread]
  rfl

theorem answer_of_other (hsuccess : reply.status ≠ Status.success)
    (hfound : reply.status ≠ Status.notFound) (hinternal : reply.status ≠ Status.internalError) :
  r.answer reply = .error (.outage (.status reply.status reply.text))
  := by
  have hread : r.read reply = .error (.outage (.status reply.status reply.text)) := by
    rw [read, if_neg hsuccess, if_neg hfound, if_neg hinternal]
  rw [answer, hread]
  rfl

/-- A reply with success comes to data or to an error of the response. -/
theorem answer_of_success (hstatus : reply.status = Status.success) :
  (∃ response, r.decode reply.raw = .ok response ∧
    r.answer reply = .ok (r.operation.serve response.data)) ∨
  ∃ e, r.decode reply.raw = .error e ∧ r.answer reply = .error (.response e)
  := by
  cases h : r.decode reply.raw with
  | ok response =>
    left
    exact ⟨response, rfl, r.answer_of_decode_ok hstatus h⟩
  | error e =>
    right
    exact ⟨e, rfl, r.answer_of_decode_error hstatus h⟩

/-- A reply without success comes to an outage, unless there is nothing. -/
theorem answer_of_not_success (hstatus : reply.status ≠ Status.success) :
  (∃ outage, r.answer reply = .error (.outage outage)) ∨
  reply.status = Status.notFound ∧ r.operation ≠ .spec ∧ r.operation ≠ .bootstrap
  := by
  by_cases hfound : reply.status = Status.notFound
  · by_cases h : r.operation = .spec ∨ r.operation = .bootstrap
    · left
      exact ⟨_, r.answer_of_notFound hfound h⟩
    · right
      obtain ⟨hspec, hbootstrap⟩ := not_or.mp h
      exact ⟨hfound, hspec, hbootstrap⟩
  · left
    by_cases hinternal : reply.status = Status.internalError
    · exact ⟨_, r.answer_of_internal hinternal⟩
    · exact ⟨_, r.answer_of_other hstatus hfound hinternal⟩

/-- What a reply comes to follows its status. -/
theorem followsStatus_answer (reply : Reply) :
  r.FollowsStatus reply (r.answer reply)
  := by
  constructor
  case decoded =>
    intro hstatus response h
    exact r.answer_of_decode_ok hstatus h
  case undecodable =>
    intro hstatus e h
    exact r.answer_of_decode_error hstatus h
  case notFound =>
    intro hstatus h
    exact r.answer_of_notFound hstatus h
  case internal =>
    intro hstatus
    exact r.answer_of_internal hstatus
  case other =>
    intro hsuccess hfound hinternal
    exact r.answer_of_other hsuccess hfound hinternal
  case isConnectivity_iff =>
    intro e he
    by_cases hstatus : reply.status = Status.success
    · rcases r.answer_of_success hstatus with ⟨response, -, h⟩ | ⟨e', -, h⟩
      · rw [h] at he
        cases he
      · obtain rfl := Except.error.inj (he.symm.trans h)
        exact iff_of_false Bool.false_ne_true fun hother => hother hstatus
    · rcases r.answer_of_not_success hstatus with ⟨outage, h⟩ | ⟨hfound, hspec, hbootstrap⟩
      · obtain rfl := Except.error.inj (he.symm.trans h)
        exact iff_of_true rfl hstatus
      · obtain ⟨x, hx, -⟩ := r.answer_of_nothing hfound hspec hbootstrap
        rw [hx] at he
        cases he
  case nothing_iff =>
    constructor
    · rintro ⟨x, hx, hnone⟩
      by_cases hstatus : reply.status = Status.success
      · rcases r.answer_of_success hstatus with ⟨response, -, h⟩ | ⟨e, -, h⟩
        · obtain rfl := Except.ok.inj (hx.symm.trans h)
          rw [Operation.data?_serve] at hnone
          cases hnone
        · rw [h] at hx
          cases hx
      · rcases r.answer_of_not_success hstatus with ⟨outage, h⟩ | h
        · rw [h] at hx
          cases hx
        · exact h
    · rintro ⟨hfound, hspec, hbootstrap⟩
      exact r.answer_of_nothing hfound hspec hbootstrap

end Request

/-! ### Nodes -/

/-- An attempt that does not end because of the limit ends by itself, in time. -/
theorem Attempt.exists_of_within {α : Type} {a : Attempt α} {limit : Nat}
    {outcome : Except NodeError α} (h : (a.within limit).outcome = outcome)
    (hlimit : outcome ≠ .error (.outage (.timedOut limit))) :
  ∃ after ≤ limit, a = .ends after outcome
  := by
  cases a with
  | hangs => exact absurd h.symm hlimit
  | ends after outcome' =>
    rw [within] at h
    split at h
    case isTrue hafter => exact ⟨after, hafter, congrArg _ h⟩
    case isFalse => exact absurd h.symm hlimit

/-- When a reply comes back, a request of a node comes to what that reply does. -/
theorem Node.ask_of_reply {n : Node} {transport : Transport} {r : Request} {get : Get}
    {after : Nat} {reply : Reply} (hget : n.get r = .ok get)
    (hreply : transport get = .ends after (.ok reply)) :
  n.ask transport r = .ends after (r.answer reply)
  := by
  rw [ask, attempt, hget]
  dsimp only
  rw [hreply]
  show Attempt.ends after ((r.read reply).bind fun x =>
    .ok (r.operation.mapServed Response.data x)) = .ends after (r.answer reply)
  rw [Request.answer]
  cases r.read reply with
  | ok x => rfl
  | error e => rfl

end BeaconLight

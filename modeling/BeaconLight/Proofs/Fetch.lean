import BeaconLight.Fetch
import BeaconLight.Proofs.Chain.Slot
import BeaconLight.Proofs.Record.Fault

/-!
# What a fetch asks for

A specification that is checked has counts that can be divided by, so a query under it never fails
for the lack of a period. Updates are asked for from the period that is given, or from the one in
which the slot of the finalized header lies; without a finality update they are not asked for.

What is asked for is seen by asking in a way that keeps the requests. The nodes behind it are any
state that answers depend on and that they may change.
-/

namespace BeaconLight

variable {σ : Type}

/-! ### Checked specifications -/

namespace Spec

/-- A specification is refused for the size of its committees, refused for its counts or accepted
as it is. -/
theorem check_cases (spec : Spec) :
  (spec.syncCommitteeSize ≠ 512 ∧ ∃ e, spec.check = .error e) ∨
  ((spec.slotsPerEpoch = 0 ∨ spec.epochsPerPeriod = 0) ∧ ∃ e, spec.check = .error e) ∨
  (spec.syncCommitteeSize = 512 ∧ ¬ (spec.slotsPerEpoch = 0 ∨ spec.epochsPerPeriod = 0) ∧
    spec.check = .ok spec)
  := by
  rw [← period_eq_zero_iff]
  by_cases hsize : spec.syncCommitteeSize = 512
  · have hfits : ¬ spec.syncCommitteeSize ≠ Preset.syncCommitteeSize := fun h => h hsize
    right
    by_cases hperiod : spec.period = 0
    · left
      exact ⟨hperiod, _, (if_neg hfits).trans (if_pos hperiod)⟩
    · right
      exact ⟨hsize, hperiod, (if_neg hfits).trans (if_neg hperiod)⟩
  · left
    exact ⟨hsize, _, if_pos hsize⟩

/-- A specification is refused exactly when its committees have another size than in this library
or one of its counts is zero. -/
theorem check_eq_error_iff {spec : Spec} :
  (∃ e, spec.check = .error e) ↔
    spec.syncCommitteeSize ≠ 512 ∨ spec.slotsPerEpoch = 0 ∨ spec.epochsPerPeriod = 0
  := by
  rcases spec.check_cases with ⟨hsize, hcheck⟩ | ⟨hcounts, hcheck⟩ | ⟨hsize, hcounts, hcheck⟩
  · exact iff_of_true hcheck (.inl hsize)
  · exact iff_of_true hcheck (.inr hcounts)
  · rw [hcheck]
    apply iff_of_false nofun
    rintro (h | h)
    · exact h hsize
    · exact hcounts h

/-- A specification that is accepted is the one that is checked, with counts that can be divided
by. -/
theorem ne_zero_of_check {spec spec' : Spec} (h : spec.check = .ok spec') :
  spec' = spec ∧ spec.slotsPerEpoch ≠ 0 ∧ spec.epochsPerPeriod ≠ 0
  := by
  rcases spec.check_cases with ⟨-, e, hcheck⟩ | ⟨-, e, hcheck⟩ | ⟨-, hcounts, hcheck⟩
  · rw [hcheck] at h
    cases h
  · rw [hcheck] at h
    cases h
  · obtain rfl := Except.ok.inj (hcheck.symm.trans h)
    exact ⟨rfl, not_or.mp hcounts⟩

end Spec

/-! ### Steps of a query -/

section Steps

variable {ask : Asking (StateM σ)} {spec : Spec} {s s' : σ}

theorem StateM.bind_of_eq {α β : Type} {x : StateM σ α} {f : α → StateM σ β} {a : α}
    (h : x s = (a, s')) :
  (x >>= f) s = f a s'
  := by
  show f (x s).1 (x s).2 = f a s'
  rw [h]

theorem checkSpec_of_served (h : ask .spec s = (.ok spec, s')) :
  checkSpec ask s = (spec.check, s')
  := StateM.bind_of_eq h

/-- A specification that is accepted was served. -/
theorem served_of_checkSpec (h : checkSpec ask s = (.ok spec, s')) :
  ask .spec s = (.ok spec, s') ∧ spec.check = .ok spec
  := by
  rcases hanswer : ask .spec s with ⟨answer, s''⟩
  cases answer with
  | error e =>
    have hcheck : checkSpec ask s = (.error (.noSpec e), s'') := StateM.bind_of_eq hanswer
    rw [hcheck] at h
    cases h
  | ok served =>
    rw [checkSpec_of_served hanswer] at h
    obtain ⟨hcheck, rfl⟩ := Prod.mk.inj h
    obtain ⟨rfl, -⟩ := Spec.ne_zero_of_check hcheck
    exact ⟨rfl, hcheck⟩

theorem startPeriod_of_update {update : Versioned .finalityUpdate}
    (h : ask .finalityUpdate s = (.ok (some update), s')) :
  startPeriod ask spec none s = (finalizedPeriod spec update, s')
  := StateM.bind_of_eq h

theorem startPeriod_of_nothing (h : ask .finalityUpdate s = (.ok none, s')) :
  startPeriod ask spec none s = (.error .noFinalityUpdate, s')
  := StateM.bind_of_eq h

theorem startPeriod_of_error {cause : PoolError} (h : ask .finalityUpdate s = (.error cause, s')) :
  startPeriod ask spec none s = (.error (.failed cause), s')
  := StateM.bind_of_eq h

/-- Without a finality update there is no start period. -/
theorem startPeriod_of_no_update (spec : Spec)
    {answer : Except PoolError (Option (Versioned .finalityUpdate))}
    (h : ask .finalityUpdate s = (answer, s')) (hanswer : ∀ update, answer ≠ .ok (some update)) :
  ∃ e, startPeriod ask spec none s = (.error e, s')
  := by
  match answer with
  | .ok (some update) => exact absurd rfl (hanswer update)
  | .ok none => exact ⟨_, startPeriod_of_nothing h⟩
  | .error cause => exact ⟨_, startPeriod_of_error h⟩

theorem fetch_of_startPeriod {start : Option Nat} {period : Nat}
    (h : startPeriod ask spec start s = (.ok period, s')) (count : Nat) :
  fetch ask spec (.updates start count) s
    = (renderAnswer (optionalJson fun xs => .array (xs.map Versioned.envelope))
        (ask (.updates period count) s').1, (ask (.updates period count) s').2)
  := StateM.bind_of_eq h

theorem fetch_of_no_startPeriod {start : Option Nat} {e : FetchError}
    (h : startPeriod ask spec start s = (.error e, s')) (count : Nat) :
  fetch ask spec (.updates start count) s = (.error e, s')
  := StateM.bind_of_eq h

/-- A finality update has a finalized header, in whose period updates start. -/
theorem finalizedPeriod_eq_ok (hslots : spec.slotsPerEpoch ≠ 0)
    (hepochs : spec.epochsPerPeriod ≠ 0) (update : Versioned .finalityUpdate) :
  ∃ header, update.finalizedBeacon = some header ∧
    finalizedPeriod spec update
      = .ok (header.slot.toNat / (spec.slotsPerEpoch * spec.epochsPerPeriod))
  := by
  obtain ⟨header, hheader⟩ : ∃ header, update.finalizedBeacon = some header := ⟨_, rfl⟩
  refine ⟨header, hheader, ?_⟩
  rw [finalizedPeriod, hheader]
  dsimp only
  rw [Spec.periodAtSlot?, Slot.period?_of_ne_zero hslots hepochs]

/-! ### Errors of a query -/

theorem renderAnswer_eq_error {α : Type} {write : α → Json} {answer : Except PoolError α}
    {e : FetchError} (h : renderAnswer write answer = .error e) :
  ∃ cause, e = .failed cause
  := by
  cases answer with
  | ok x => cases h
  | error cause =>
    cases h
    exact ⟨cause, rfl⟩

/-- A finality update gives a start period unless one of the counts is zero. -/
theorem finalizedPeriod_eq_error {update : Versioned .finalityUpdate} {e : FetchError}
    (h : finalizedPeriod spec update = .error e) :
  e = .zeroDivisor ∧ (spec.slotsPerEpoch = 0 ∨ spec.epochsPerPeriod = 0)
  := by
  by_cases hcounts : spec.slotsPerEpoch = 0 ∨ spec.epochsPerPeriod = 0
  · refine ⟨?_, hcounts⟩
    obtain ⟨header, hheader⟩ : ∃ header, update.finalizedBeacon = some header := ⟨_, rfl⟩
    rw [finalizedPeriod, hheader] at h
    dsimp only at h
    split at h
    · exact (Except.error.inj h).symm
    · cases h
  · obtain ⟨hslots, hepochs⟩ := not_or.mp hcounts
    obtain ⟨header, -, hperiod⟩ := finalizedPeriod_eq_ok hslots hepochs update
    rw [hperiod] at h
    cases h

/-- A start period fails as a query does. -/
theorem startPeriod_eq_error {start : Option Nat} {e : FetchError}
    (h : startPeriod ask spec start s = (.error e, s')) :
  (∃ cause, e = .failed cause) ∨ e = .noFinalityUpdate ∨
    (e = .zeroDivisor ∧ (spec.slotsPerEpoch = 0 ∨ spec.epochsPerPeriod = 0))
  := by
  cases start with
  | some period => cases h
  | none =>
    rcases hanswer : ask .finalityUpdate s with ⟨answer, s''⟩
    match answer with
    | .ok (some update) =>
      obtain ⟨herror, -⟩ := Prod.mk.inj ((startPeriod_of_update hanswer).symm.trans h)
      exact .inr (.inr (finalizedPeriod_eq_error herror))
    | .ok none =>
      obtain ⟨herror, -⟩ := Prod.mk.inj ((startPeriod_of_nothing hanswer).symm.trans h)
      exact .inr (.inl (Except.error.inj herror).symm)
    | .error cause =>
      obtain ⟨herror, -⟩ := Prod.mk.inj ((startPeriod_of_error hanswer).symm.trans h)
      exact .inl ⟨cause, (Except.error.inj herror).symm⟩

/-- A query fails with a failed request, for the lack of a finality update, or when it divides by a
count that is zero. -/
theorem fetch_eq_error {query : Query} {e : FetchError}
    (h : (fetch ask spec query s).1 = .error e) :
  (∃ cause, e = .failed cause) ∨ e = .noFinalityUpdate ∨
    (e = .zeroDivisor ∧ (spec.slotsPerEpoch = 0 ∨ spec.epochsPerPeriod = 0))
  := by
  cases query with
  | bootstrap blockId => exact .inl (renderAnswer_eq_error h)
  | finalityUpdate => exact .inl (renderAnswer_eq_error h)
  | optimisticUpdate => exact .inl (renderAnswer_eq_error h)
  | updates start count =>
    rcases hstart : startPeriod ask spec start s with ⟨result, s'⟩
    cases result with
    | ok period =>
      rw [fetch_of_startPeriod hstart] at h
      exact .inl (renderAnswer_eq_error h)
    | error e' =>
      rw [fetch_of_no_startPeriod hstart] at h
      obtain rfl := Except.error.inj h
      exact startPeriod_eq_error hstart

/-! ### Requests of a query -/

/-- A way of asking that keeps what it is asked for, in order. -/
def Asking.recorded (ask : Asking (StateM σ)) : Asking (StateM (List Request × σ)) :=
  fun r (requests, s) => ((ask r s).1, (requests ++ [r], (ask r s).2))

/-- What a query asks for, in order. -/
def requestsOf (ask : Asking (StateM σ)) (spec : Spec) (query : Query) (s : σ) : List Request :=
  (fetch ask.recorded spec query ([], s)).2.1

theorem Asking.recorded_of_eq {r : Request} {answer : Except PoolError r.Answer}
    (h : ask r s = (answer, s')) (requests : List Request) :
  ask.recorded r (requests, s) = (answer, (requests ++ [r], s'))
  := by
  rw [recorded, h]

/-- The start period is the same when the requests are kept. -/
theorem startPeriod_recorded (ask : Asking (StateM σ)) (spec : Spec) (start : Option Nat)
    (requests : List Request) (s : σ) :
  ∃ requests', startPeriod ask.recorded spec start (requests, s)
    = ((startPeriod ask spec start s).1, (requests', (startPeriod ask spec start s).2))
  := by
  cases start with
  | some period => exact ⟨_, rfl⟩
  | none =>
    rcases hanswer : ask .finalityUpdate s with ⟨answer, s'⟩
    have hrecorded := Asking.recorded_of_eq hanswer requests
    refine ⟨requests ++ [.finalityUpdate], ?_⟩
    match answer with
    | .ok (some update) =>
      rw [startPeriod_of_update hanswer]
      exact startPeriod_of_update hrecorded
    | .ok none =>
      rw [startPeriod_of_nothing hanswer]
      exact startPeriod_of_nothing hrecorded
    | .error cause =>
      rw [startPeriod_of_error hanswer]
      exact startPeriod_of_error hrecorded

/-- A query comes to the same when its requests are kept. -/
theorem fetch_recorded (ask : Asking (StateM σ)) (spec : Spec) (query : Query)
    (requests : List Request) (s : σ) :
  (fetch ask.recorded spec query (requests, s)).1 = (fetch ask spec query s).1
  := by
  cases query with
  | bootstrap blockId => rfl
  | updates start count =>
    obtain ⟨requests', hrecorded⟩ := startPeriod_recorded ask spec start requests s
    rcases hstart : startPeriod ask spec start s with ⟨result, s'⟩
    rw [hstart] at hrecorded
    cases result with
    | error e => rw [fetch_of_no_startPeriod hstart, fetch_of_no_startPeriod hrecorded]
    | ok period =>
      rw [fetch_of_startPeriod hstart, fetch_of_startPeriod hrecorded]
      rfl
  | finalityUpdate => rfl
  | optimisticUpdate => rfl

/-- Updates from a given period are all that is asked for. -/
theorem requestsOf_given (ask : Asking (StateM σ)) (spec : Spec) (period count : Nat) (s : σ) :
  requestsOf ask spec (.updates (some period) count) s = [.updates period count]
  := rfl

/-- After a finality update is served, updates are asked for from the period in which its finalized
slot lies. -/
theorem requestsOf_derived {update : Versioned .finalityUpdate}
    (hslots : spec.slotsPerEpoch ≠ 0) (hepochs : spec.epochsPerPeriod ≠ 0)
    (h : ask .finalityUpdate s = (.ok (some update), s')) (count : Nat) :
  ∃ header, update.finalizedBeacon = some header ∧
    requestsOf ask spec (.updates none count) s
      = [.finalityUpdate,
        .updates (header.slot.toNat / (spec.slotsPerEpoch * spec.epochsPerPeriod)) count]
  := by
  obtain ⟨header, hheader, hperiod⟩ := finalizedPeriod_eq_ok hslots hepochs update
  refine ⟨header, hheader, ?_⟩
  have hstart : startPeriod ask.recorded spec none ([], s)
      = (finalizedPeriod spec update, ([.finalityUpdate], s')) :=
    startPeriod_of_update (Asking.recorded_of_eq h [])
  rw [hperiod] at hstart
  rw [requestsOf, fetch_of_startPeriod hstart]
  rfl

/-- Without a finality update, nothing else is asked for. -/
theorem requestsOf_underived {answer : Except PoolError (Option (Versioned .finalityUpdate))}
    (h : ask .finalityUpdate s = (answer, s')) (hanswer : ∀ update, answer ≠ .ok (some update))
    (count : Nat) :
  requestsOf ask spec (.updates none count) s = [.finalityUpdate]
  := by
  obtain ⟨e, hstart⟩ := startPeriod_of_no_update spec (Asking.recorded_of_eq h []) hanswer
  rw [requestsOf, fetch_of_no_startPeriod hstart]
  rfl

end Steps

/-! ### Queries under a checked specification -/

/-- What queries under a specification come to and ask for. -/
structure FetchesUnder (ask : Asking (StateM σ)) (spec : Spec) : Prop where
  /-- There are slots in an epoch. -/
  slotsPerEpoch_ne_zero : spec.slotsPerEpoch ≠ 0
  /-- There are epochs in a period. -/
  epochsPerPeriod_ne_zero : spec.epochsPerPeriod ≠ 0
  /-- No query divides by zero. -/
  ne_zeroDivisor : ∀ query s, (fetch ask spec query s).1 ≠ .error .zeroDivisor
  /-- What a query comes to does not depend on whether its requests are kept. -/
  recorded : ∀ query requests s,
    (fetch ask.recorded spec query (requests, s)).1 = (fetch ask spec query s).1
  /-- Updates from a given period are asked for from it. -/
  given : ∀ period count s,
    requestsOf ask spec (.updates (some period) count) s = [.updates period count]
  /-- Other updates are asked for from the only period in which the finalized slot lies. -/
  derived : ∀ count s update s', ask .finalityUpdate s = (.ok (some update), s') →
    ∃ header period, update.finalizedBeacon = some header ∧
      Slot.InPeriod (spec.slotsPerEpoch * spec.epochsPerPeriod) period header.slot.toNat ∧
      (∀ other, Slot.InPeriod (spec.slotsPerEpoch * spec.epochsPerPeriod) other header.slot.toNat →
        other = period) ∧
      requestsOf ask spec (.updates none count) s = [.finalityUpdate, .updates period count]
  /-- Without a finality update a query for them fails, and no updates are asked for. -/
  underived : ∀ count s answer s', ask .finalityUpdate s = (answer, s') →
    (∀ update, answer ≠ .ok (some update)) →
    (∃ e, (fetch ask spec (.updates none count) s).1 = .error e) ∧
      requestsOf ask spec (.updates none count) s = [.finalityUpdate]

/-- Queries under counts that can be divided by never fail for these. -/
theorem fetchesUnder (ask : Asking (StateM σ)) {spec : Spec} (hslots : spec.slotsPerEpoch ≠ 0)
    (hepochs : spec.epochsPerPeriod ≠ 0) :
  FetchesUnder ask spec
  := by
  constructor
  case slotsPerEpoch_ne_zero => exact hslots
  case epochsPerPeriod_ne_zero => exact hepochs
  case ne_zeroDivisor =>
    intro query s h
    rcases fetch_eq_error h with ⟨cause, h⟩ | h | ⟨-, hslots' | hepochs'⟩
    · cases h
    · cases h
    · exact hslots hslots'
    · exact hepochs hepochs'
  case recorded =>
    intro query requests s
    exact fetch_recorded ask spec query requests s
  case given =>
    intro period count s
    exact requestsOf_given ask spec period count s
  case derived =>
    intro count s update s' h
    obtain ⟨header, hheader, hrequests⟩ := requestsOf_derived hslots hepochs h count
    have hlength : spec.slotsPerEpoch * spec.epochsPerPeriod ≠ 0 :=
      Nat.mul_ne_zero hslots hepochs
    refine ⟨header, _, hheader, (Slot.inPeriod_iff hlength).mpr rfl, ?_, hrequests⟩
    intro other hother
    exact ((Slot.inPeriod_iff hlength).mp hother).symm
  case underived =>
    intro count s answer s' h hanswer
    obtain ⟨e, hstart⟩ := startPeriod_of_no_update spec h hanswer
    refine ⟨⟨e, ?_⟩, requestsOf_underived h hanswer count⟩
    rw [fetch_of_no_startPeriod hstart]

/-- The program never divides by zero and starts at the right period. A specification that is
served is refused exactly when its committees have another size or one of its counts is zero.
Queries under one that is accepted come to what they should and ask for what they should, and no
query at all fails for the lack of a finalized header. -/
theorem checkSpec_fetchesUnder (ask : Asking (StateM σ)) (s : σ) :
  (∀ served s', ask .spec s = (.ok served, s') →
    ((∃ e, (checkSpec ask s).1 = .error e) ↔
      served.syncCommitteeSize ≠ 512 ∨ served.slotsPerEpoch = 0 ∨ served.epochsPerPeriod = 0)) ∧
  (∀ spec s', checkSpec ask s = (.ok spec, s') →
    ask .spec s = (.ok spec, s') ∧ FetchesUnder ask spec) ∧
  ∀ spec query t, (fetch ask spec query t).1 ≠ .error .noFinalizedHeader
  := by
  refine ⟨?_, ?_, ?_⟩
  · intro served s' hserved
    rw [checkSpec_of_served hserved]
    exact Spec.check_eq_error_iff
  · intro spec s' hcheck
    obtain ⟨hserved, hspec⟩ := served_of_checkSpec hcheck
    obtain ⟨-, hslots, hepochs⟩ := Spec.ne_zero_of_check hspec
    exact ⟨hserved, fetchesUnder ask hslots hepochs⟩
  · intro spec query t h
    rcases fetch_eq_error h with ⟨cause, h⟩ | h | ⟨h, -⟩
    all_goals cases h

/-- A specification whose periods are longer than all numbers of 64 bits. -/
def longPeriods : Spec :=
  ⟨12, 2 ^ 63, 4, 512⟩

/-- The specification of the main network, whose periods have 8192 slots. -/
def mainnet : Spec :=
  ⟨12, 32, 256, 512⟩

/-- The finality update with headers at two slots, whose other bytes are all zero. -/
def Versioned.finalityAt (attested finalized : BitVec 64) : Versioned .finalityUpdate :=
  let x : FinalityUpdate AltairHeader := zeroFinality.data
  let header (slot : BitVec 64) : AltairHeader := ⟨{ x.attestedHeader.beacon with slot }⟩
  ⟨.altair, header attested, header finalized, x.finalityBranch, x.syncAggregate, x.signatureSlot⟩

/-- Nodes that serve a specification and a finality update, and have nothing else. -/
def nodesWith (spec : Spec) (update : Versioned .finalityUpdate) : Asking (StateM Unit) :=
  fun r s =>
    match r with
    | .spec => (.ok spec, s)
    | .finalityUpdate => (.ok (some update), s)
    | .bootstrap _ => (.error (.cancelled .bootstrap), s)
    | .updates .. => (.ok none, s)
    | .optimisticUpdate => (.ok none, s)

/-- Long periods are accepted, and the first slot lies in the first of them. On the main network
updates start in the period whose last slot is finalized, not in the next one, which is attested. -/
theorem checkSpec_fetchesUnder_periods :
  let first := nodesWith longPeriods (.finalityAt 0 0)
  let last := nodesWith mainnet (.finalityAt 8200192 8200191)
  checkSpec first () = (.ok longPeriods, ()) ∧
  requestsOf first longPeriods (.updates none 1) () = [.finalityUpdate, .updates 0 1] ∧
  checkSpec last () = (.ok mainnet, ()) ∧
  requestsOf last mainnet (.updates none 1) () = [.finalityUpdate, .updates 1000 1]
  := by
  intro first last
  have hrequests (spec : Spec) (attested finalized : BitVec 64) (period : Nat)
      (hcheck : checkSpec (nodesWith spec (.finalityAt attested finalized)) () = (.ok spec, ()))
      (hin : Slot.InPeriod (spec.slotsPerEpoch * spec.epochsPerPeriod) period finalized.toNat) :
      requestsOf (nodesWith spec (.finalityAt attested finalized)) spec (.updates none 1) ()
        = [.finalityUpdate, .updates period 1] := by
    have hfetches := ((checkSpec_fetchesUnder _ ()).2.1 spec () hcheck).2
    obtain ⟨header, other, hheader, -, hunique, hrequests⟩ :=
      hfetches.derived 1 () (.finalityAt attested finalized) () rfl
    obtain rfl := Option.some.inj hheader
    rw [hrequests, ← hunique period hin]
  have hfirst : checkSpec first () = (.ok longPeriods, ()) := rfl
  have hlast : checkSpec last () = (.ok mainnet, ()) := rfl
  refine ⟨hfirst, ?_, hlast, ?_⟩
  · apply hrequests longPeriods 0 0 0 hfirst (by decide)
  · apply hrequests mainnet 8200192 8200191 1000 hlast (by decide)

end BeaconLight

import BeaconLight.Pool.Error

/-!
# Fetching records

`checkSpec` asks for the chain specification and refuses one that the records of this library
do not fit. `fetch` runs a query under a specification and gives the text of what was served:
a record with its fork, a list of those, or `null` when there is nothing yet.

Both work over any way of asking for things, which is all that they know of nodes. A query
for updates that names no start period takes the period of the latest finalized header.
-/

namespace BeaconLight

/-- What a light client wants. -/
inductive Query
  | bootstrap (blockId : String)
  /-- At most `count` updates from a period on, or from the latest finalized period. -/
  | updates (startPeriod : Option Nat) (count : Nat)
  | finalityUpdate
  | optimisticUpdate
  deriving DecidableEq, Repr

/-- Why a query fails. -/
inductive FetchError
  /-- The chain specification could not be had. -/
  | noSpec (cause : PoolError)
  /-- The sync committees of the chain have another size. -/
  | wrongCommitteeSize (size : Nat)
  /-- The sync committee periods of the chain are empty. -/
  | emptyPeriod
  | failed (cause : PoolError)
  /-- There is no finality update to take the start period from. -/
  | noFinalityUpdate
  | noFinalizedHeader
  /-- The specification divides by zero. -/
  | zeroDivisor
  deriving DecidableEq, Repr

namespace FetchError

/-- The failed request behind an error. -/
def cause? : FetchError → Option PoolError
  | .noSpec cause | .failed cause => some cause
  | _ => none

/-- What an error says of itself, apart from a failed request behind it. -/
def context? : FetchError → Option String
  | .noSpec _ => some "failed to fetch the chain spec"
  | .wrongCommitteeSize size =>
    some ("beacon nodes use a sync committee of " ++ Text.decimal size ++ " members, expected "
      ++ Text.decimal Preset.syncCommitteeSize)
  | .emptyPeriod => some "beacon nodes report a sync committee period of 0 slots"
  | .failed _ => none
  | .noFinalityUpdate =>
    some "no finality update available to derive the start period from"
  | .noFinalizedHeader => some "finality update carries no finalized header"
  | .zeroDivisor => some "attempt to divide by zero"

/-- The wording of an error, without that of a failed request behind it unless there is
nothing else to say. -/
def message (e : FetchError) : String :=
  match e.context?, e.cause? with
  | some context, _ => context
  | none, some cause => cause.message
  | none, none => ""

end FetchError

variable {m : Type → Type} [Monad m]

/-- A way of asking for things. -/
abbrev Asking (m : Type → Type) : Type :=
  (r : Request) → m (Except PoolError r.Answer)

/-- The specification fits the records of this library. -/
def Spec.check (spec : Spec) : Except FetchError Spec :=
  if spec.syncCommitteeSize ≠ Preset.syncCommitteeSize then
    .error (.wrongCommitteeSize spec.syncCommitteeSize)
  else if spec.period = 0 then .error .emptyPeriod
  else .ok spec

/-- Asks for the chain specification and checks it. -/
def checkSpec (ask : Asking m) : m (Except FetchError Spec) := do
  match ← ask .spec with
  | .ok spec => return Spec.check spec
  | .error e => return .error (.noSpec e)

/-- The sync committee period of the finalized header of an update. -/
def finalizedPeriod (spec : Spec) (update : Versioned .finalityUpdate) :
  Except FetchError Nat :=
  match update.finalizedBeacon with
  | none => .error .noFinalizedHeader
  | some header =>
    match spec.periodAtSlot? header.slot.toNat with
    | none => .error .zeroDivisor
    | some period => .ok period

/-- The period that updates are asked for from. -/
def startPeriod (ask : Asking m) (spec : Spec) : Option Nat → m (Except FetchError Nat)
  | some period => return .ok period
  | none => do
    match ← ask .finalityUpdate with
    | .ok (some update) => return finalizedPeriod spec update
    | .ok none => return .error .noFinalityUpdate
    | .error e => return .error (.failed e)

/-- A list of records with their forks as JSON, or `null` for nothing. -/
def optionalJson {α : Type} (write : α → Json) : Option α → Json
  | some x => write x
  | none => .null

/-- The text of what was served, or the failure of the request. -/
def renderAnswer {α : Type} (write : α → Json) (answer : Except PoolError α) :
  Except FetchError String :=
  match answer with
  | .ok x => .ok (Json.render (write x))
  | .error e => .error (.failed e)

/-- Runs a query and gives the text of what was served. -/
def fetch (ask : Asking m) (spec : Spec) : Query → m (Except FetchError String)
  | .bootstrap blockId => do
    return renderAnswer Versioned.envelope (← ask (.bootstrap blockId))
  | .updates start count => do
    match ← startPeriod ask spec start with
    | .error e => return .error e
    | .ok period =>
      let write := optionalJson fun xs => .array (xs.map Versioned.envelope)
      return renderAnswer write (← ask (.updates period count))
  | .finalityUpdate => do
    return renderAnswer (optionalJson Versioned.envelope) (← ask .finalityUpdate)
  | .optimisticUpdate => do
    return renderAnswer (optionalJson Versioned.envelope) (← ask .optimisticUpdate)

end BeaconLight

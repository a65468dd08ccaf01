import BeaconLight.Chain.Slot
import BeaconLight.Json.Reader

/-!
# The chain specification

The values of the chain specification that the sync committee periods depend on, as a node
reports them. In JSON each is the decimal text of a number of 64 bits.
-/

namespace BeaconLight

/-- The values of the chain specification that light clients use. -/
structure Spec where
  secondsPerSlot : Nat
  slotsPerEpoch : Nat
  epochsPerPeriod : Nat
  syncCommitteeSize : Nat
  deriving DecidableEq, Repr

namespace Spec

/-- The names that a node reports the values under. -/
def fields :
  Json.FieldReaders (Nat × Nat × Nat × Nat × Unit)
    (Option Nat × Option Nat × Option Nat × Option Nat × Unit) :=
  .cons (.required "SECONDS_PER_SLOT" .wordText) <|
  .cons (.required "SLOTS_PER_EPOCH" .wordText) <|
  .cons (.required "EPOCHS_PER_SYNC_COMMITTEE_PERIOD" .wordText) <|
  .cons (.required "SYNC_COMMITTEE_SIZE" .wordText) .nil

/-- Reads a specification. -/
def reader : Json.Reader Spec := fun o => do
  let (seconds, slots, epochs, size, ()) ← Json.Reader.record "Spec" fields o
  return ⟨seconds, slots, epochs, size⟩

/-- A specification as JSON. -/
def toJson (s : Spec) : Json :=
  .object [
    ("SECONDS_PER_SLOT", .string (Text.decimal s.secondsPerSlot)),
    ("SLOTS_PER_EPOCH", .string (Text.decimal s.slotsPerEpoch)),
    ("EPOCHS_PER_SYNC_COMMITTEE_PERIOD", .string (Text.decimal s.epochsPerPeriod)),
    ("SYNC_COMMITTEE_SIZE", .string (Text.decimal s.syncCommitteeSize))]

/-- The greatest number of 64 bits. -/
def greatestWord : Nat := Nat.pow 2 64 - 1

/-- The number of slots in a sync committee period, or the greatest number of 64 bits if it
is above that. -/
def period (s : Spec) : Nat :=
  min (s.epochsPerPeriod * s.slotsPerEpoch) greatestWord

/-- The sync committee period of a slot, if both counts that it divides by are positive. -/
def periodAtSlot? (s : Spec) (slot : Nat) : Option Nat :=
  Slot.period? s.slotsPerEpoch s.epochsPerPeriod slot

end Spec

end BeaconLight

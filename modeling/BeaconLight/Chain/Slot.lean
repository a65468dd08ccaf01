/-!
# Slots, epochs and periods

Slots are grouped into epochs and epochs into sync committee periods. Both groupings divide
by a count that a node reports, so they have no answer when the count is zero.
-/

namespace BeaconLight.Slot

/-- The epoch of a slot. -/
def epoch? (slotsPerEpoch slot : Nat) : Option Nat :=
  if slotsPerEpoch = 0 then none else some (slot / slotsPerEpoch)

/-- The sync committee period of a slot. -/
def period? (slotsPerEpoch epochsPerPeriod slot : Nat) : Option Nat :=
  match epoch? slotsPerEpoch slot with
  | none => none
  | some epoch => if epochsPerPeriod = 0 then none else some (epoch / epochsPerPeriod)

end BeaconLight.Slot

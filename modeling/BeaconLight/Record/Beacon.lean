import BeaconLight.Schema.Basic

/-!
# Beacon block headers

The header of a beacon block, which is what every light client record attests to.
-/

namespace BeaconLight

/-- A root of a merkle tree. -/
abbrev Root : Type := Bytes 32

/-- The header of a beacon block. -/
structure BeaconBlockHeader where
  slot : BitVec 64
  proposerIndex : BitVec 64
  parentRoot : Root
  stateRoot : Root
  bodyRoot : Root
  deriving DecidableEq

instance : Layout BeaconBlockHeader where
  fields :=
    .cons "slot" .uint64 <|
    .cons "proposer_index" .uint64 <|
    .cons "parent_root" .root <|
    .cons "state_root" .root <|
    .cons "body_root" .root .nil
  toValues x := (x.slot, x.proposerIndex, x.parentRoot, x.stateRoot, x.bodyRoot, ())
  ofValues | (slot, proposer, parent, state, body, ()) => ⟨slot, proposer, parent, state, body⟩
  ofValues_toValues _ := rfl
  toValues_ofValues _ := rfl

end BeaconLight

import BeaconLight.Chain.Preset
import BeaconLight.Schema.Basic

/-!
# Sync committees

A sync committee is the public keys of its members and their aggregate; a sync aggregate is
which members signed and their aggregate signature.
-/

namespace BeaconLight

/-- A sync committee. -/
structure SyncCommittee where
  pubkeys : Sized (Bytes Preset.publicKeySize) Preset.syncCommitteeSize
  aggregatePubkey : Bytes Preset.publicKeySize
  deriving DecidableEq

instance : Layout SyncCommittee where
  fields :=
    .cons "pubkeys" (.byteVectors Preset.syncCommitteeSize Preset.publicKeySize) <|
    .cons "aggregate_pubkey" (.bytes Preset.publicKeySize .lower) .nil
  toValues x := (x.pubkeys, x.aggregatePubkey, ())
  ofValues | (pubkeys, aggregate, ()) => ⟨pubkeys, aggregate⟩
  ofValues_toValues _ := rfl
  toValues_ofValues _ := rfl

/-- The part of a sync committee that signed and its signature. -/
structure SyncAggregate where
  bits : Bytes Preset.syncCommitteeBitsSize
  signature : Bytes Preset.signatureSize
  deriving DecidableEq

instance : Layout SyncAggregate where
  fields :=
    .cons "sync_committee_bits" (.bytes Preset.syncCommitteeBitsSize .lower) <|
    .cons "sync_committee_signature" (.bytes Preset.signatureSize .lower) .nil
  toValues x := (x.bits, x.signature, ())
  ofValues | (bits, signature, ()) => ⟨bits, signature⟩
  ofValues_toValues _ := rfl
  toValues_ofValues _ := rfl

/-- The number of bits set in the `width` low bits of a natural number. -/
def bitCount : (width : Nat) → Nat → Nat
  | 0, _ => 0
  | width + 1, n => n % 2 + bitCount width (n / 2)

/-- The number of committee members that signed. -/
def SyncAggregate.participants (x : SyncAggregate) : Nat :=
  x.bits.val.foldl (fun n byte => n + bitCount 8 byte.toNat) 0

end BeaconLight

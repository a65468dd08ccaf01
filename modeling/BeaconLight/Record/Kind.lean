import BeaconLight.Record.Committee
import BeaconLight.Record.Header

/-!
# Light client records

The four kinds of light client records, each over a type of headers: the bootstrap that a
light client starts from, the update that takes it to the next sync committee, and the
finality and optimistic updates that follow the head of the chain.
-/

namespace BeaconLight

/-- A header with the sync committee in force. -/
structure Bootstrap (Header : Type) where
  header : Header
  currentSyncCommittee : SyncCommittee
  currentSyncCommitteeBranch : Sized Root Preset.currentSyncCommitteeDepth
  deriving DecidableEq

/-- A signed header with the next sync committee and a finalized header. -/
structure Update (Header : Type) where
  attestedHeader : Header
  nextSyncCommittee : SyncCommittee
  nextSyncCommitteeBranch : Sized Root Preset.nextSyncCommitteeDepth
  finalizedHeader : Header
  finalityBranch : Sized Root Preset.finalityDepth
  syncAggregate : SyncAggregate
  signatureSlot : BitVec 64
  deriving DecidableEq

/-- A signed header with a finalized header. -/
structure FinalityUpdate (Header : Type) where
  attestedHeader : Header
  finalizedHeader : Header
  finalityBranch : Sized Root Preset.finalityDepth
  syncAggregate : SyncAggregate
  signatureSlot : BitVec 64
  deriving DecidableEq

/-- A signed header. -/
structure OptimisticUpdate (Header : Type) where
  attestedHeader : Header
  syncAggregate : SyncAggregate
  signatureSlot : BitVec 64
  deriving DecidableEq

section Layouts

variable {Header : Type} [Layout Header]

instance : Layout (Bootstrap Header) where
  fields :=
    .cons "header" (Layout.schema Header) <|
    .cons "current_sync_committee" (Layout.schema SyncCommittee) <|
    .cons "current_sync_committee_branch"
      (.byteVectors Preset.currentSyncCommitteeDepth 32) .nil
  toValues x :=
    (Layout.toValues x.header, Layout.toValues x.currentSyncCommittee,
      x.currentSyncCommitteeBranch, ())
  ofValues v := ⟨Layout.ofValues v.1, Layout.ofValues v.2.1, v.2.2.1⟩
  ofValues_toValues _ := by simp
  toValues_ofValues v :=
    Prod.ext (@Layout.toValues_ofValues Header _ v.1) <|
    Prod.ext (@Layout.toValues_ofValues SyncCommittee _ v.2.1) rfl

instance : Layout (Update Header) where
  fields :=
    .cons "attested_header" (Layout.schema Header) <|
    .cons "next_sync_committee" (Layout.schema SyncCommittee) <|
    .cons "next_sync_committee_branch" (.byteVectors Preset.nextSyncCommitteeDepth 32) <|
    .cons "finalized_header" (Layout.schema Header) <|
    .cons "finality_branch" (.byteVectors Preset.finalityDepth 32) <|
    .cons "sync_aggregate" (Layout.schema SyncAggregate) <|
    .cons "signature_slot" .uint64 .nil
  toValues x :=
    (Layout.toValues x.attestedHeader, Layout.toValues x.nextSyncCommittee,
      x.nextSyncCommitteeBranch, Layout.toValues x.finalizedHeader, x.finalityBranch,
      Layout.toValues x.syncAggregate, x.signatureSlot, ())
  ofValues
    | (attested, committee, committeeBranch, finalized, finalityBranch, aggregate, slot, ()) =>
      ⟨Layout.ofValues attested, Layout.ofValues committee, committeeBranch,
        Layout.ofValues finalized, finalityBranch, Layout.ofValues aggregate, slot⟩
  ofValues_toValues _ := by simp
  toValues_ofValues
    | (attested, committee, _, finalized, _, aggregate, _, ()) =>
      Prod.ext (@Layout.toValues_ofValues Header _ attested) <|
      Prod.ext (@Layout.toValues_ofValues SyncCommittee _ committee) <|
      Prod.ext rfl <|
      Prod.ext (@Layout.toValues_ofValues Header _ finalized) <|
      Prod.ext rfl <|
      Prod.ext (@Layout.toValues_ofValues SyncAggregate _ aggregate) rfl

instance : Layout (FinalityUpdate Header) where
  fields :=
    .cons "attested_header" (Layout.schema Header) <|
    .cons "finalized_header" (Layout.schema Header) <|
    .cons "finality_branch" (.byteVectors Preset.finalityDepth 32) <|
    .cons "sync_aggregate" (Layout.schema SyncAggregate) <|
    .cons "signature_slot" .uint64 .nil
  toValues x :=
    (Layout.toValues x.attestedHeader, Layout.toValues x.finalizedHeader, x.finalityBranch,
      Layout.toValues x.syncAggregate, x.signatureSlot, ())
  ofValues
    | (attested, finalized, finalityBranch, aggregate, slot, ()) =>
      ⟨Layout.ofValues attested, Layout.ofValues finalized, finalityBranch,
        Layout.ofValues aggregate, slot⟩
  ofValues_toValues _ := by simp
  toValues_ofValues
    | (attested, finalized, _, aggregate, _, ()) =>
      Prod.ext (@Layout.toValues_ofValues Header _ attested) <|
      Prod.ext (@Layout.toValues_ofValues Header _ finalized) <|
      Prod.ext rfl <|
      Prod.ext (@Layout.toValues_ofValues SyncAggregate _ aggregate) rfl

instance : Layout (OptimisticUpdate Header) where
  fields :=
    .cons "attested_header" (Layout.schema Header) <|
    .cons "sync_aggregate" (Layout.schema SyncAggregate) <|
    .cons "signature_slot" .uint64 .nil
  toValues x :=
    (Layout.toValues x.attestedHeader, Layout.toValues x.syncAggregate, x.signatureSlot, ())
  ofValues
    | (attested, aggregate, slot, ()) =>
      ⟨Layout.ofValues attested, Layout.ofValues aggregate, slot⟩
  ofValues_toValues _ := by simp
  toValues_ofValues
    | (attested, aggregate, _, ()) =>
      Prod.ext (@Layout.toValues_ofValues Header _ attested) <|
      Prod.ext (@Layout.toValues_ofValues SyncAggregate _ aggregate) rfl

end Layouts

/-- The kinds of light client records. -/
inductive Kind
  | bootstrap
  | update
  | finalityUpdate
  | optimisticUpdate
  deriving DecidableEq, Repr

namespace Kind

/-- The name of a kind in errors. -/
def name : Kind → String
  | .bootstrap => "LightClientBootstrap"
  | .update => "LightClientUpdate"
  | .finalityUpdate => "LightClientFinalityUpdate"
  | .optimisticUpdate => "LightClientOptimisticUpdate"

/-- The type of records of a kind over a type of headers. -/
def Record (Header : Type) : Kind → Type
  | .bootstrap => Bootstrap Header
  | .update => Update Header
  | .finalityUpdate => FinalityUpdate Header
  | .optimisticUpdate => OptimisticUpdate Header

instance {Header : Type} [DecidableEq Header] : (kind : Kind) → DecidableEq (kind.Record Header)
  | .bootstrap => inferInstanceAs (DecidableEq (Bootstrap Header))
  | .update => inferInstanceAs (DecidableEq (Update Header))
  | .finalityUpdate => inferInstanceAs (DecidableEq (FinalityUpdate Header))
  | .optimisticUpdate => inferInstanceAs (DecidableEq (OptimisticUpdate Header))

instance {Header : Type} [Layout Header] : (kind : Kind) → Layout (kind.Record Header)
  | .bootstrap => inferInstanceAs (Layout (Bootstrap Header))
  | .update => inferInstanceAs (Layout (Update Header))
  | .finalityUpdate => inferInstanceAs (Layout (FinalityUpdate Header))
  | .optimisticUpdate => inferInstanceAs (Layout (OptimisticUpdate Header))

/-- The header that a record attests to. -/
def attested {Header : Type} : (kind : Kind) → kind.Record Header → Header
  | .bootstrap, x => Bootstrap.header x
  | .update, x => Update.attestedHeader x
  | .finalityUpdate, x => FinalityUpdate.attestedHeader x
  | .optimisticUpdate, x => OptimisticUpdate.attestedHeader x

/-- The finalized header of a record, for the kinds that carry one. -/
def finalized {Header : Type} : (kind : Kind) → kind.Record Header → Option Header
  | .bootstrap, _ => none
  | .update, x => some (Update.finalizedHeader x)
  | .finalityUpdate, x => some (FinalityUpdate.finalizedHeader x)
  | .optimisticUpdate, _ => none

end Kind

end BeaconLight

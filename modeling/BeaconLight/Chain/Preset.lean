/-!
# Preset values

Sizes and places that the records of the mainnet preset are built on. A merkle branch has
one root for each level between the root of its tree and the node at a generalized index,
which is the floor of the binary logarithm of the index.
-/

namespace BeaconLight.Preset

/-- The floor of the binary logarithm of a positive number. -/
def floorLog2? (n : Nat) : Option Nat :=
  if n = 0 then none else some (Nat.log2 n)

/-- The generalized index of the finalized checkpoint root in the beacon state. -/
def finalizedRootIndex : Nat := 105

/-- The generalized index of the current sync committee in the beacon state. -/
def currentSyncCommitteeIndex : Nat := 54

/-- The generalized index of the next sync committee in the beacon state. -/
def nextSyncCommitteeIndex : Nat := 55

/-- The generalized index of the execution payload in the beacon block body. -/
def executionPayloadIndex : Nat := 25

/-- The number of roots in the branch of the node at a generalized index. -/
def branchDepth (index : Nat) : Nat :=
  (floorLog2? index).getD 0

/-- The number of roots in a finality branch. -/
def finalityDepth : Nat := branchDepth finalizedRootIndex

/-- The number of roots in a branch of the current sync committee. -/
def currentSyncCommitteeDepth : Nat := branchDepth currentSyncCommitteeIndex

/-- The number of roots in a branch of the next sync committee. -/
def nextSyncCommitteeDepth : Nat := branchDepth nextSyncCommitteeIndex

/-- The number of roots in an execution branch. -/
def executionDepth : Nat := branchDepth executionPayloadIndex

example : finalityDepth = 6 ∧ currentSyncCommitteeDepth = 5 ∧ nextSyncCommitteeDepth = 5
    ∧ executionDepth = 4 := by decide

/-- The number of members of a sync committee. -/
def syncCommitteeSize : Nat := 512

/-- The number of bytes that hold one bit for each member of a sync committee. -/
def syncCommitteeBitsSize : Nat := 64

/-- The number of bytes of a public key. -/
def publicKeySize : Nat := 48

/-- The number of bytes of a signature. -/
def signatureSize : Nat := 96

/-- The number of bytes of an address. -/
def addressSize : Nat := 20

/-- The number of bytes of a logs bloom. -/
def logsBloomSize : Nat := 256

/-- The greatest number of bytes of extra data. -/
def extraDataLimit : Nat := 32

end BeaconLight.Preset

import BeaconLight.Chain.Fork
import BeaconLight.Record.Payload

/-!
# Light client headers

The header of a light client comes in three shapes: the beacon block header alone, and from
capella on that with the header of the execution payload, of which deneb changes the fields.
-/

namespace BeaconLight

/-- The header of a light client before capella. -/
structure AltairHeader where
  beacon : BeaconBlockHeader
  deriving DecidableEq

/-- The header of a light client from capella on, with a payload header of the given type
and the branch that proves it. -/
structure ExecutionHeader (Payload : Type) where
  beacon : BeaconBlockHeader
  execution : Payload
  executionBranch : Sized Root Preset.executionDepth
  deriving DecidableEq

instance : Layout AltairHeader where
  fields := .cons "beacon" (Layout.schema BeaconBlockHeader) .nil
  toValues x := (Layout.toValues x.beacon, ())
  ofValues v := ⟨Layout.ofValues v.1⟩
  ofValues_toValues _ := rfl
  toValues_ofValues _ := rfl

instance {Payload : Type} [Layout Payload] : Layout (ExecutionHeader Payload) where
  fields :=
    .cons "beacon" (Layout.schema BeaconBlockHeader) <|
    .cons "execution" (Layout.schema Payload) <|
    .cons "execution_branch" (.byteVectors Preset.executionDepth 32) .nil
  toValues x := (Layout.toValues x.beacon, Layout.toValues x.execution, x.executionBranch, ())
  ofValues v := ⟨Layout.ofValues v.1, Layout.ofValues v.2.1, v.2.2.1⟩
  ofValues_toValues x := by simp
  toValues_ofValues v :=
    Prod.ext (@Layout.toValues_ofValues BeaconBlockHeader _ v.1) <|
    Prod.ext (@Layout.toValues_ofValues Payload _ v.2.1) rfl

/-- The header without its execution part. -/
def ExecutionHeader.toAltair {Payload : Type} (x : ExecutionHeader Payload) : AltairHeader :=
  ⟨x.beacon⟩

/-- The shapes of light client headers. -/
inductive Shape
  | altair
  | capella
  | deneb
  deriving DecidableEq, Repr

/-- The shape of the headers of a fork. -/
def LightFork.shape : LightFork → Shape
  | .altair | .bellatrix => .altair
  | .capella => .capella
  | .deneb => .deneb

namespace Shape

/-- The type of headers of a shape. -/
def Header : Shape → Type
  | .altair => AltairHeader
  | .capella => ExecutionHeader CapellaPayload
  | .deneb => ExecutionHeader DenebPayload

instance : (shape : Shape) → DecidableEq shape.Header
  | .altair => inferInstanceAs (DecidableEq AltairHeader)
  | .capella => inferInstanceAs (DecidableEq (ExecutionHeader CapellaPayload))
  | .deneb => inferInstanceAs (DecidableEq (ExecutionHeader DenebPayload))

instance : (shape : Shape) → Layout shape.Header
  | .altair => inferInstanceAs (Layout AltairHeader)
  | .capella => inferInstanceAs (Layout (ExecutionHeader CapellaPayload))
  | .deneb => inferInstanceAs (Layout (ExecutionHeader DenebPayload))

/-- The beacon block header in a header of any shape. -/
def beacon : (shape : Shape) → shape.Header → BeaconBlockHeader
  | .altair, ⟨beacon⟩ => beacon
  | .capella, ⟨beacon, _, _⟩ => beacon
  | .deneb, ⟨beacon, _, _⟩ => beacon

end Shape

end BeaconLight

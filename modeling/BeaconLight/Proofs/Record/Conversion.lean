import BeaconLight.Proofs.Record.Fault
import BeaconLight.Proofs.Schema.Projection

/-!
# Records of poorer shapes and kinds

A header of a later shape holds all that one of an earlier shape does, an update all that a
finality update does, and that all that an optimistic update does. Each of these conversions is a
projection of the fields, so a document that is read as the richer record is read as the poorer
one: under another fork, or as another kind.
-/

namespace BeaconLight

open Layout (Projects toValues)

/-! ### Headers -/

/-- The header with another payload header. -/
def ExecutionHeader.mapPayload {Payload Payload' : Type} (f : Payload → Payload')
    (x : ExecutionHeader Payload) : ExecutionHeader Payload' :=
  ⟨x.beacon, f x.execution, x.executionBranch⟩

/-- The projection of the fields that payload headers have as of capella. -/
def payloadProjection (rest : Fields) : (payloadFields rest).Projection (payloadFields .nil) :=
  .keep .same <| .keep .same <| .keep .same <| .keep .same <| .keep .same <|
  .keep .same <| .keep .same <| .keep .same <| .keep .same <| .keep .same <|
  .keep .same <| .keep .same <| .keep .same <| .keep .same <| .keep .same <| .none rest

theorem projects_toCapellaPayload :
  Projects DenebPayload.toCapellaPayload
  := by
  use payloadProjection _
  intro x
  rfl

namespace ExecutionHeader

variable {Payload Payload' : Type} [Layout Payload] [Layout Payload']

/-- A projection of payload headers is one of the headers around them. -/
theorem projects_mapPayload {f : Payload → Payload'} (h : Projects f) :
  Projects (mapPayload f)
  := by
  obtain ⟨p, hp⟩ := h
  use .keep .same <| .keep (.record p) <| .keep .same .nil
  intro x
  show (_, toValues (f x.execution), _) = (_, p.apply (toValues x.execution), _)
  rw [hp]
  rfl

theorem projects_toAltair :
  Projects (@toAltair Payload)
  := by
  use .keep .same <| .drop <| .drop .nil
  intro x
  rfl

end ExecutionHeader

/-! ### Records -/

section Records

variable {Header Header' : Type}

/-- The record with each of its headers converted. -/
def Kind.mapHeaders (f : Header → Header') :
  (kind : Kind) → kind.Record Header → kind.Record Header'
  | .bootstrap, ⟨header, committee, branch⟩ => ⟨f header, committee, branch⟩
  | .update, ⟨attested, committee, branch, finalized, finalityBranch, aggregate, slot⟩ =>
    ⟨f attested, committee, branch, f finalized, finalityBranch, aggregate, slot⟩
  | .finalityUpdate, ⟨attested, finalized, branch, aggregate, slot⟩ =>
    ⟨f attested, f finalized, branch, aggregate, slot⟩
  | .optimisticUpdate, ⟨attested, aggregate, slot⟩ => ⟨f attested, aggregate, slot⟩

/-- The finality update in an update. -/
def Update.toFinality (x : Update Header) : FinalityUpdate Header :=
  ⟨x.attestedHeader, x.finalizedHeader, x.finalityBranch, x.syncAggregate, x.signatureSlot⟩

/-- The optimistic update in a finality update. -/
def FinalityUpdate.toOptimistic (x : FinalityUpdate Header) : OptimisticUpdate Header :=
  ⟨x.attestedHeader, x.syncAggregate, x.signatureSlot⟩

variable [Layout Header] [Layout Header']

/-- A projection of headers is one of the records around them. -/
theorem Kind.projects_mapHeaders {f : Header → Header'} (h : Projects f) (kind : Kind) :
  Projects (kind.mapHeaders f)
  := by
  obtain ⟨p, hp⟩ := h
  cases kind with
  | bootstrap =>
    use .keep (.record p) <| .keep .same <| .keep .same .nil
    intro (x : Bootstrap Header)
    show (toValues (f x.header), _) = (p.apply (toValues x.header), _)
    rw [hp]
    rfl
  | update =>
    use .keep (.record p) <| .keep .same <| .keep .same <| .keep (.record p) <| .keep .same <|
      .keep .same <| .keep .same .nil
    intro (x : Update Header)
    show (toValues (f x.attestedHeader), _, _, toValues (f x.finalizedHeader), _)
      = (p.apply (toValues x.attestedHeader), _, _, p.apply (toValues x.finalizedHeader), _)
    rw [hp, hp]
    rfl
  | finalityUpdate =>
    use .keep (.record p) <| .keep (.record p) <| .keep .same <| .keep .same <| .keep .same .nil
    intro (x : FinalityUpdate Header)
    show (toValues (f x.attestedHeader), toValues (f x.finalizedHeader), _)
      = (p.apply (toValues x.attestedHeader), p.apply (toValues x.finalizedHeader), _)
    rw [hp, hp]
    rfl
  | optimisticUpdate =>
    use .keep (.record p) <| .keep .same <| .keep .same .nil
    intro (x : OptimisticUpdate Header)
    show (toValues (f x.attestedHeader), _) = (p.apply (toValues x.attestedHeader), _)
    rw [hp]
    rfl

theorem Update.projects_toFinality :
  Projects (@Update.toFinality Header)
  := by
  use .keep .same <| .drop <| .drop <| .keep .same <| .keep .same <| .keep .same <| .keep .same .nil
  intro x
  rfl

theorem FinalityUpdate.projects_toOptimistic :
  Projects (@FinalityUpdate.toOptimistic Header)
  := by
  use .keep .same <| .drop <| .drop <| .keep .same <| .keep .same .nil
  intro x
  rfl

end Records

/-! ### Shapes -/

/-- The conversions of the headers of a shape into those of a poorer one. -/
inductive Shape.Converts : (shape shape' : Shape) → (shape.Header → shape'.Header) → Prop
  /-- The two fields for blob gas are dropped. -/
  | denebCapella :
    Converts .deneb .capella (ExecutionHeader.mapPayload DenebPayload.toCapellaPayload)
  /-- The execution part is dropped. -/
  | capellaAltair : Converts .capella .altair ExecutionHeader.toAltair
  /-- The execution part is dropped. -/
  | denebAltair : Converts .deneb .altair ExecutionHeader.toAltair

namespace Shape.Converts

variable {shape shape' : Shape} {f : shape.Header → shape'.Header}

/-- The conversions of headers are projections of their fields. -/
theorem projects (h : Shape.Converts shape shape' f) :
  Projects f
  := by
  cases h with
  | denebCapella => apply ExecutionHeader.projects_mapPayload projects_toCapellaPayload
  | capellaAltair => apply ExecutionHeader.projects_toAltair
  | denebAltair => apply ExecutionHeader.projects_toAltair

theorem beacon_eq (h : Shape.Converts shape shape' f) (header : shape.Header) :
  shape'.beacon (f header) = shape.beacon header
  := by
  cases h
  all_goals rfl

theorem attested_eq (h : Shape.Converts shape shape' f) (kind : Kind)
    (data : kind.Record shape.Header) :
  shape'.beacon (kind.attested (kind.mapHeaders f data)) = shape.beacon (kind.attested data)
  := by
  cases kind
  all_goals apply h.beacon_eq

/-- The conversions of headers keep the finalized beacon block header, and the lack of one. -/
theorem finalized_eq (h : Shape.Converts shape shape' f) (kind : Kind)
    (data : kind.Record shape.Header) :
  (kind.finalized (kind.mapHeaders f data)).map shape'.beacon
    = (kind.finalized data).map shape.beacon
  := by
  cases kind with
  | bootstrap => rfl
  | update => apply congrArg some (h.beacon_eq _)
  | finalityUpdate => apply congrArg some (h.beacon_eq _)
  | optimisticUpdate => rfl

end Shape.Converts

/-! ### Versioned records -/

namespace Versioned

variable {kind kind' : Kind} {json : Json} {path : String} {fork : Fork}

/-- The record under another fork with its headers converted. -/
def withHeaders (x : Versioned kind) (fork' : LightFork)
    (f : x.fork.shape.Header → fork'.shape.Header) : Versioned kind :=
  ⟨fork', kind.mapHeaders f x.data⟩

/-- The finality update in an update. -/
def toFinality (x : Versioned .update) : Versioned .finalityUpdate :=
  ⟨x.fork, Update.toFinality x.data⟩

/-- The optimistic update in a finality update. -/
def toOptimistic (x : Versioned .finalityUpdate) : Versioned .optimisticUpdate :=
  ⟨x.fork, FinalityUpdate.toOptimistic x.data⟩

/-- Where a record is read, so is what a projection makes of it, under the fork of that. -/
theorem ofJson_of_projects {x : Versioned kind} (h : ofJson kind fork json path = .ok x)
    {fork' : LightFork}
    {convert : kind.Record x.fork.shape.Header → kind'.Record fork'.shape.Header}
    (hconvert : Projects convert) :
  ofJson kind' fork'.toFork json path = .ok ⟨fork', convert x.data⟩
  := by
  apply ofJson_eq_ok_iff.mpr
  constructor
  · rfl
  · apply hconvert.denotes (ofJson_eq_ok_iff.mp h).2

/-- A document of a record is read as one with its headers converted. -/
theorem ofJson_withHeaders {x : Versioned kind} (h : ofJson kind fork json path = .ok x)
    {fork' : LightFork} {f : x.fork.shape.Header → fork'.shape.Header}
    (hf : Shape.Converts x.fork.shape fork'.shape f) :
  ofJson kind fork'.toFork json path = .ok (x.withHeaders fork' f)
  := ofJson_of_projects h (kind.projects_mapHeaders hf.projects)

/-- A document of an update is read as the finality update in it. -/
theorem ofJson_toFinality {x : Versioned .update} (h : ofJson .update fork json path = .ok x) :
  ofJson .finalityUpdate fork json path = .ok x.toFinality
  := by
  obtain ⟨rfl, -⟩ := ofJson_eq_ok_iff.mp h
  apply ofJson_of_projects h Update.projects_toFinality

/-- A document of a finality update is read as the optimistic update in it. -/
theorem ofJson_toOptimistic {x : Versioned .finalityUpdate}
    (h : ofJson .finalityUpdate fork json path = .ok x) :
  ofJson .optimisticUpdate fork json path = .ok x.toOptimistic
  := by
  obtain ⟨rfl, -⟩ := ofJson_eq_ok_iff.mp h
  apply ofJson_of_projects h FinalityUpdate.projects_toOptimistic

/-- Documents of richer records are read as the poorer records in them. A document that is read
under a fork is read under each fork of a poorer shape, as the same record but for its headers:
without the fields for blob gas from deneb to capella, and without the execution part from either
to altair and bellatrix. Under any one fork a document of an update is read as the finality update
and as the optimistic update in it, and a document of a finality update as the optimistic update
in it. The beacon block header that is attested to is always the same, and so is the finalized one
where both records have it. -/
theorem reads_poorer (json : Json) (path : String) :
  (∀ (kind : Kind) (fork : Fork) (x : Versioned kind), ofJson kind fork json path = .ok x →
    x.fork.toFork = fork ∧
    ∀ (fork' : LightFork) (f : x.fork.shape.Header → fork'.shape.Header),
      Shape.Converts x.fork.shape fork'.shape f →
      ofJson kind fork'.toFork json path = .ok (x.withHeaders fork' f) ∧
      (x.withHeaders fork' f).attestedBeacon = x.attestedBeacon ∧
      (x.withHeaders fork' f).finalizedBeacon = x.finalizedBeacon) ∧
  (∀ (fork : Fork) (x : Versioned .update), ofJson .update fork json path = .ok x →
    ofJson .finalityUpdate fork json path = .ok x.toFinality ∧
    ofJson .optimisticUpdate fork json path = .ok x.toFinality.toOptimistic ∧
    x.toFinality.attestedBeacon = x.attestedBeacon ∧
    x.toFinality.finalizedBeacon = x.finalizedBeacon ∧
    x.toFinality.toOptimistic.attestedBeacon = x.attestedBeacon) ∧
  ∀ (fork : Fork) (x : Versioned .finalityUpdate), ofJson .finalityUpdate fork json path = .ok x →
    ofJson .optimisticUpdate fork json path = .ok x.toOptimistic ∧
    x.toOptimistic.attestedBeacon = x.attestedBeacon
  := by
  refine ⟨?_, ?_, ?_⟩
  · intro kind fork x h
    refine ⟨(ofJson_eq_ok_iff.mp h).1, ?_⟩
    intro fork' f hf
    refine ⟨ofJson_withHeaders h hf, ?_, ?_⟩
    · apply hf.attested_eq kind x.data
    · apply hf.finalized_eq kind x.data
  · intro fork x h
    have hfinality := ofJson_toFinality h
    exact ⟨hfinality, ofJson_toOptimistic hfinality, rfl, rfl, rfl⟩
  · intro fork x h
    exact ⟨ofJson_toOptimistic h, rfl⟩

/-- The finality update of the last fork whose bytes are all zero. -/
def zeroDeneb : Versioned .finalityUpdate :=
  let x : FinalityUpdate AltairHeader := zeroFinality.data
  let payload : DenebPayload :=
    ⟨⟨zeros 32, zeros 20, zeros 32, zeros 32, zeros 256, zeros 32, 0, 0, 0, 0, ⟨[], Nat.zero_le _⟩,
      0, zeros 32, zeros 32, zeros 32⟩, 0, 0⟩
  let header : ExecutionHeader DenebPayload :=
    ⟨x.attestedHeader.beacon, payload, ⟨List.replicate 4 (zeros 32), rfl⟩⟩
  ⟨.deneb, header, header, x.finalityBranch, x.syncAggregate, x.signatureSlot⟩

/-- Its document is read under the forks before, and as an optimistic update. -/
theorem reads_poorer_zeroDeneb :
  ofJson .finalityUpdate .capella zeroDeneb.toJson ""
    = .ok (zeroDeneb.withHeaders .capella (.mapPayload DenebPayload.toCapellaPayload)) ∧
  ofJson .finalityUpdate .bellatrix zeroDeneb.toJson ""
    = .ok (zeroDeneb.withHeaders .bellatrix ExecutionHeader.toAltair) ∧
  ofJson .optimisticUpdate .deneb zeroDeneb.toJson "" = .ok zeroDeneb.toOptimistic
  := by
  have hzero : ofJson .finalityUpdate .deneb zeroDeneb.toJson "" = .ok zeroDeneb :=
    zeroDeneb.ofJson_toJson ""
  obtain ⟨hshapes, -, hkinds⟩ := reads_poorer zeroDeneb.toJson ""
  obtain ⟨-, hforks⟩ := hshapes .finalityUpdate .deneb zeroDeneb hzero
  refine ⟨?_, ?_, ?_⟩
  · apply (hforks .capella _ .denebCapella).1
  · apply (hforks .bellatrix _ .denebAltair).1
  · apply (hkinds .deneb zeroDeneb hzero).1

end Versioned

end BeaconLight

import BeaconLight.Proofs.Response.Negotiation
import BeaconLight.Proofs.Response.Updates

/-!
# Decoding in order

The records of a response are read last, at the fork that negotiation settles on. A response
that is refused before is refused as it is whatever its records are, all the records of one that
is not are of its fork, and no trouble with the fork is ever reported as trouble with a record.
-/

namespace BeaconLight

/-- A record is what a body is read as at a fork. -/
def Content.RecordAt {kind : Kind} (fork : LightFork) : Content → Versioned kind → Prop
  | .ssz bytes, x => Versioned.ofSsz kind fork.toFork bytes = .ok x
  | .json members, x => ∃ data, Json.find? Response.dataField members = some data ∧
    Versioned.ofJson kind fork.toFork data Response.dataField = .ok x

/-- Updates are what a body is read as at a fork, one for each chunk or element. -/
def Content.UpdatesAt (fork : LightFork) : Content → List (Versioned .update) → Prop
  | .ssz bytes, xs => ∃ chunks, Chunk.Frames chunks bytes ∧
    List.Forall₂ (fun chunk x => Versioned.ofSsz .update fork.toFork chunk.payload = .ok x)
      chunks xs
  | .json members, xs => ∃ items, Json.find? Response.dataField members = some (.array items) ∧
    List.Forall₂ (fun item x => Versioned.ofJson .update fork.toFork item "" = .ok x) items xs

namespace RawResponse

variable {raw : RawResponse} {kind : Kind} {fork : LightFork}

/-- The result of decoding a response follows what comes of the response. `Reads` says which
data a body is read as at a fork, and `OfFork` that data are of a fork. -/
structure Follows {α : Type} (raw : RawResponse) (Reads : LightFork → Content → α → Prop)
    (OfFork : LightFork → α → Prop) (result : Except ResponseError (Response α)) : Prop where
  /-- What is refused before the records are read has that for its result. -/
  refused : ∀ e, raw.Outcome (.error e) → result = .error e
  /-- The data of any other are what its body is read as at its fork. -/
  decoded : ∀ fork content, raw.Outcome (.ok (fork, content)) →
    ∀ x, (∃ response, result = .ok response ∧ response.data = x) ↔ Reads fork content x
  /-- The data are of the fork. -/
  ofFork : ∀ fork content, raw.Outcome (.ok (fork, content)) →
    ∀ response, result = .ok response → OfFork fork response.data
  /-- What fails then is a record. -/
  failed : ∀ fork content, raw.Outcome (.ok (fork, content)) →
    ∀ e, result = .error e → ∃ cause, e = .badRecord cause
  /-- No record fails for a fork. -/
  noVersion : ∀ cause, result = .error (.badRecord cause) → cause.kind ≠ .version

/-- A response that is refused before its records are read is not refused for the fork of a
record. -/
theorem Outcome.kind_ne {cause : RecordError} (h : raw.Outcome (.error (.badRecord cause))) :
  cause.kind ≠ .version
  := by
  have hnamed {text : String} (htext : ForkOutcome text (.error (.badRecord cause))) :
      cause.kind ≠ .version := by
    cases htext
  cases h with
  | headerRefused _ htext => apply hnamed htext
  | bodyRefused _ _ _ htext => apply hnamed htext
  | contentRefused _ hcontent =>
    cases hcontent with
    | malformed =>
      rintro ⟨⟩
    | notObject =>
      rintro ⟨⟩

/-- The result of reading a body that has been negotiated: its data, or trouble with a record
that is not about a fork. -/
structure ReadsAs {α : Type} (result : Except ResponseError (Response α)) (Reads : α → Prop) :
  Prop where
  /-- The data are what the body is read as. -/
  data_iff : ∀ x, (∃ response, result = .ok response ∧ response.data = x) ↔ Reads x
  /-- What fails is a record. -/
  failed : ∀ e, result = .error e → ∃ cause, e = .badRecord cause ∧ cause.kind ≠ .version

/-- A body that is refused for a record is read as nothing. -/
theorem readsAs_of_error {α : Type} {result : Except ResponseError (Response α)}
    {Reads : α → Prop} {cause : RecordError} (h : result = .error (.badRecord cause))
    (hkind : cause.kind ≠ .version) (hnone : ∀ x, ¬ Reads x) :
  ReadsAs result Reads
  := by
  subst h
  constructor
  · intro x
    constructor
    · rintro ⟨response, ⟨⟩, -⟩
    · intro hx
      exact absurd hx (hnone x)
  · rintro _ ⟨⟩
    exact ⟨cause, rfl, hkind⟩

/-- Reading one record and putting it in a response. -/
theorem readsAs_map {kind : Kind} {fork : LightFork} {metadata : Json.Members}
    {result : Except RecordError (Versioned kind)}
    (hkind : ∀ cause, result = .error cause → cause.kind ≠ .version) :
  ReadsAs ((liftRecord result).map fun record => respond fork record metadata)
    (fun x => result = .ok x)
  := by
  cases result with
  | ok record =>
    constructor
    · intro x
      constructor
      · rintro ⟨_, ⟨⟩, rfl⟩
        rfl
      · rintro ⟨⟩
        exact ⟨_, rfl, rfl⟩
    · rintro _ ⟨⟩
  | error cause =>
    apply readsAs_of_error rfl (hkind cause rfl)
    rintro x ⟨⟩

/-- A list that is read all or up to the first element at fault is read as its records. -/
theorem AllOrFirst.readsAs {α : Type} {elements : List α}
    {Reads : α → Versioned .update → Prop} {Blames : Nat → α → RecordError → Prop}
    {result : Except ResponseError (Response (List (Versioned .update)))}
    (h : AllOrFirst fork elements Reads Blames result) (hunique : Relator.RightUnique Reads)
    (hkind : ∀ i a cause, Blames i a cause → cause.kind ≠ .version) :
  ReadsAs result (List.Forall₂ Reads elements)
  := by
  constructor
  · intro records
    apply h.data_iff hunique
  · intro e he
    obtain ⟨i, a, cause, -, -, -, hblames, rfl⟩ := h.first e he
    exact ⟨cause, rfl, hkind i a cause hblames⟩

/-- The result follows the response when it does so wherever negotiation ends. -/
theorem follows_of_negotiate {α : Type} {Reads : LightFork → Content → α → Prop}
    {OfFork : LightFork → α → Prop} {result : Except ResponseError (Response α)}
    (hrefused : ∀ e, raw.negotiate = .error e → result = .error e)
    (hreads : ∀ fork content, raw.negotiate = .ok (fork, content) →
      ReadsAs result (Reads fork content))
    (hfork : ∀ fork content x, Reads fork content x → OfFork fork x) :
  raw.Follows Reads OfFork result
  := by
  constructor
  · intro e he
    apply hrefused e (outcome_iff.mp he)
  · intro fork content h
    apply (hreads fork content (outcome_iff.mp h)).data_iff
  · intro fork content h response hresponse
    apply hfork fork content
    apply ((hreads fork content (outcome_iff.mp h)).data_iff _).mp
    exact ⟨response, hresponse, rfl⟩
  · intro fork content h e he
    obtain ⟨cause, hcause, -⟩ := (hreads fork content (outcome_iff.mp h)).failed e he
    exact ⟨cause, hcause⟩
  · intro cause hresult
    obtain ⟨outcome, h⟩ := raw.exists_outcome
    cases outcome with
    | error e =>
      have he := hrefused e (outcome_iff.mp h)
      obtain rfl := Except.error.inj (hresult.symm.trans he)
      apply h.kind_ne
    | ok negotiated =>
      obtain ⟨cause', hcause, hkind⟩ := (hreads _ _ (outcome_iff.mp h)).failed _ hresult
      obtain rfl := ResponseError.badRecord.inj hcause
      apply hkind

/-! ### One record -/

/-- The body of a response is read as its record. -/
theorem readsAs_decodeRecord {content : Content} (h : raw.negotiate = .ok (fork, content)) :
  ReadsAs (raw.decodeRecord kind) (content.RecordAt fork)
  := by
  cases content with
  | ssz bytes =>
    rw [decodeRecord_of_ssz h]
    apply readsAs_map
    intro cause hcause
    obtain ⟨reason, rfl⟩ := Versioned.badLayout_of_ofSsz hcause
    rintro ⟨⟩
  | json members =>
    rw [decodeRecord_of_json h]
    cases htake : takeData members with
    | error e =>
      obtain rfl := takeData_eq_error htake
      apply readsAs_of_error rfl
      · decide
      · rintro x ⟨data, hdata, hx⟩
        rw [takeData_eq_ok_iff.mpr ⟨hdata, Versioned.ne_null_of_ofJson hx⟩] at htake
        cases htake
    | ok data =>
      have hdata := (takeData_eq_ok_iff.mp htake).1
      have hreads : Content.RecordAt fork (.json members) = fun x =>
          Versioned.ofJson kind fork.toFork data Response.dataField = .ok x := by
        funext x
        simp only [Content.RecordAt, hdata, Option.some_inj, exists_eq_left']
      rw [hreads]
      apply readsAs_map
      intro cause hcause
      apply (Versioned.isWithin_of_ofJson (by decide) hcause).kind_ne

/-- A response with one record follows what comes of it. -/
theorem follows_decodeRecord (raw : RawResponse) (kind : Kind) :
  raw.Follows Content.RecordAt (fun fork x => x.fork = fork) (raw.decodeRecord kind)
  := by
  apply follows_of_negotiate
  · intro e he
    apply decodeRecord_of_error he
  · intro fork content h
    apply readsAs_decodeRecord h
  · intro fork content x hx
    cases content with
    | ssz bytes => apply Versioned.fork_of_ofSsz hx
    | json members =>
      obtain ⟨data, -, hx⟩ := hx
      apply Versioned.fork_of_ofJson hx

/-! ### A list of updates -/

/-- The body of a response is read as its updates. -/
theorem readsAs_decodeUpdates {content : Content} (h : raw.negotiate = .ok (fork, content)) :
  ReadsAs raw.decodeUpdates (content.UpdatesAt fork)
  := by
  cases content with
  | ssz bytes =>
    by_cases hframes : ∃ chunks, Chunk.Frames chunks bytes
    · obtain ⟨chunks, hframes⟩ := hframes
      have hreads : Content.UpdatesAt fork (.ssz bytes) = List.Forall₂
          (fun chunk x => Versioned.ofSsz .update fork.toFork chunk.payload = .ok x) chunks := by
        funext xs
        simp only [Content.UpdatesAt, ← Chunk.split_eq_ok_iff,
          Chunk.split_eq_ok_iff.mpr hframes, Except.ok.injEq, exists_eq_left']
      rw [hreads]
      apply (allOrFirst_of_ssz h hframes).readsAs
      · intro chunk x y hx hy
        exact Except.ok.inj (hx.symm.trans hy)
      · rintro i chunk _ ⟨reason, -, rfl⟩ ⟨⟩
    · obtain ⟨fault, -, hfault⟩ := decodeUpdates_of_not_frames h hframes
      apply readsAs_of_error hfault
      · rintro ⟨⟩
      · rintro xs ⟨chunks, hchunks, -⟩
        exact hframes ⟨chunks, hchunks⟩
  | json members =>
    by_cases hdata : ∃ items, Json.find? Response.dataField members = some (.array items)
    · obtain ⟨items, hdata⟩ := hdata
      have hreads : Content.UpdatesAt fork (.json members) = List.Forall₂
          (fun item x => Versioned.ofJson .update fork.toFork item "" = .ok x) items := by
        funext xs
        simp only [Content.UpdatesAt, hdata, Option.some_inj, Json.array.injEq, exists_eq_left']
      rw [hreads]
      apply (allOrFirst_of_json h hdata).readsAs
      · intro item x y hx hy
        exact Except.ok.inj (hx.symm.trans hy)
      · intro i item cause hcause
        apply hcause.2.kind_ne
    · have hnone : ∀ xs, ¬ Content.UpdatesAt fork (.json members) xs := by
        rintro xs ⟨items, hitems, -⟩
        exact hdata ⟨items, hitems⟩
      rcases decodeUpdates_of_not_array h (not_exists.mp hdata) with he | he
      · apply readsAs_of_error he (by decide) hnone
      · apply readsAs_of_error he (by decide) hnone

/-- A response with a list of updates follows what comes of it. -/
theorem follows_decodeUpdates (raw : RawResponse) :
  raw.Follows Content.UpdatesAt (fun fork xs => ∀ x ∈ xs, x.fork = fork) raw.decodeUpdates
  := by
  apply follows_of_negotiate
  · intro e he
    apply decodeUpdates_of_error he
  · intro fork content h
    apply readsAs_decodeUpdates h
  · intro fork content xs hxs x hx
    cases content with
    | ssz bytes =>
      obtain ⟨chunks, -, hxs⟩ := hxs
      obtain ⟨chunk, hchunk⟩ := hxs.exists_left x hx
      apply Versioned.fork_of_ofSsz hchunk
    | json members =>
      obtain ⟨items, -, hxs⟩ := hxs
      obtain ⟨item, hitem⟩ := hxs.exists_left x hx
      apply Versioned.fork_of_ofJson hitem

/-! ### The order -/

/-- A response is decoded in a fixed order. Exactly one thing comes of it before its records are
read; a refusal is the result of decoding it as any kind of record and as a list of updates, and
otherwise the result follows from reading its body at its fork. -/
theorem decode_follows_outcome (raw : RawResponse) :
  (∃! outcome, raw.Outcome outcome) ∧
  (∀ kind, raw.Follows Content.RecordAt (fun fork x => x.fork = fork) (raw.decodeRecord kind)) ∧
  raw.Follows Content.UpdatesAt (fun fork xs => ∀ x ∈ xs, x.fork = fork) raw.decodeUpdates
  := by
  refine ⟨?_, raw.follows_decodeRecord, raw.follows_decodeUpdates⟩
  obtain ⟨outcome, h⟩ := raw.exists_outcome
  refine ⟨outcome, h, ?_⟩
  intro outcome' h'
  rw [← outcome_iff.mp h, outcome_iff.mp h']

end RawResponse

end BeaconLight

import BeaconLight.Proofs.Response.Chunk

/-!
# Rounds over a body

Bytes are none at all, begin with a chunk, or are at fault where a chunk should begin. A body is
taken apart in rounds, and `round` is one of them with each cut checked: a cut beyond the end of
what is cut is an outcome of its own. It never comes to that, whatever the bytes say of lengths,
and each round but the last takes a chunk of twelve bytes or more. So `rounds`, which gives up
after a number of rounds, comes to what `split` does within one for every twelve bytes and one
more.

What is reported of a body that is not taken apart is the fault behind its last whole chunk, under
the number of chunks in front of it.
-/

namespace BeaconLight

/-! ### Checked cuts -/

section Cut

variable {α : Type} {n : Nat} {xs rest : List α}

/-- A list cut behind its first `n` elements, if it has as many. -/
def cut? (n : Nat) (xs : List α) : Option (Sized α n × List α) :=
  (Sized.ofList? n (xs.take n)).map (·, xs.drop n)

theorem cut?_append {front : List α} (h : front.length = n) (rest : List α) :
  cut? n (front ++ rest) = some (⟨front, h⟩, rest)
  := by
  have hfront : Sized.ofList? n ((front ++ rest).take n) = some ⟨front, h⟩ := by
    apply Sized.ofList?_eq_some_iff.mpr
    apply List.take_left' h
  rw [cut?, hfront, List.drop_left' h]
  rfl

theorem cut?_of_lt (h : xs.length < n) :
  cut? n xs = none
  := by
  rw [cut?, Option.map_eq_none_iff]
  apply dif_neg
  rw [List.length_take]
  omega

end Cut

namespace Chunk

/-! ### What bytes begin with -/

/-- What is wrong with bytes where the chunk of an index should begin. -/
inductive FaultAt (index : Nat) : List UInt8 → Error → Prop
  /-- They end within the length. -/
  | noLength {bytes : List UInt8} (hne : bytes ≠ []) (h : bytes.length < lengthSize) :
    FaultAt index bytes (.noLength index bytes.length)
  /-- The length is less than that of a digest, or they end before it does. -/
  | badLength {length : Nat} {rest : List UInt8} (hlength : length < 2 ^ 64)
    (h : length < digestSize ∨ rest.length < length) :
    FaultAt index (littleEndian lengthSize length ++ rest) (.badLength index length rest.length)

theorem pow_lengthSize :
  256 ^ lengthSize = 2 ^ 64
  := by decide

theorem littleEndian_append_ne_nil (length : Nat) (rest : List UInt8) :
  littleEndian lengthSize length ++ rest ≠ []
  := by
  apply List.append_ne_nil_of_left_ne_nil
  apply List.ne_nil_of_length_pos
  rw [length_littleEndian]
  decide

/-- What bytes begin with: nothing, a chunk, or a fault. -/
inductive Beginning (index : Nat) : List UInt8 → Prop
  | nothing : Beginning index []
  | chunk {chunk : Chunk} {rest : List UInt8} (h : chunk.Fits) :
    Beginning index (chunk.encode ++ rest)
  | fault {bytes : List UInt8} {e : Error} (h : FaultAt index bytes e) : Beginning index bytes

theorem encode_append (chunk : Chunk) (rest : List UInt8) :
  chunk.encode ++ rest
    = littleEndian lengthSize (digestSize + chunk.payload.length)
        ++ ((chunk.digest.val ++ chunk.payload) ++ rest)
  := by simp only [encode, List.append_assoc]

theorem le_length_encode (chunk : Chunk) :
  12 ≤ chunk.encode.length
  := by
  rw [length_encode, lengthSize, digestSize]
  omega

/-- Bytes that hold a length that is in bounds begin with a chunk. -/
theorem exists_encode_append {length : Nat} {rest : List UInt8} (hlength : length < 2 ^ 64)
    (hdigest : digestSize ≤ length) (hrest : length ≤ rest.length) :
  ∃ (chunk : Chunk) (left : List UInt8), chunk.Fits ∧
    littleEndian lengthSize length ++ rest = chunk.encode ++ left
  := by
  have hfront : (rest.take digestSize).length = digestSize := by
    rw [List.length_take]
    omega
  have hcounted : digestSize + ((rest.take length).drop digestSize).length = length := by
    rw [List.length_drop, List.length_take]
    omega
  have hframed : rest.take digestSize ++ (rest.take length).drop digestSize = rest.take length := by
    rw [← List.take_append_drop digestSize (rest.take length), List.take_take,
      Nat.min_eq_left hdigest, List.drop_left' hfront]
  refine ⟨⟨⟨rest.take digestSize, hfront⟩, (rest.take length).drop digestSize⟩,
    rest.drop length, ?_, ?_⟩
  · rw [Fits, pow_lengthSize, hcounted]
    exact hlength
  · rw [encode_append]
    dsimp only
    rw [hcounted, hframed, List.take_append_drop]

/-- Bytes begin with nothing, a chunk or a fault. -/
theorem beginning (index : Nat) (bytes : List UInt8) :
  Beginning index bytes
  := by
  by_cases hne : bytes = []
  · rw [hne]
    exact .nothing
  by_cases hshort : bytes.length < lengthSize
  · exact .fault (.noLength hne hshort)
  -- The first eight bytes hold a length, so the bytes are that length and a rest.
  have htake : (bytes.take lengthSize).length = lengthSize := by
    rw [List.length_take]
    omega
  have hbound := ofLittleEndian_lt (bytes.take lengthSize)
  have hlength := littleEndian_ofLittleEndian (bytes.take lengthSize)
  rw [htake, pow_lengthSize] at hbound
  rw [htake] at hlength
  rw [← List.take_append_drop lengthSize bytes, ← hlength]
  generalize ofLittleEndian (bytes.take lengthSize) = length at hbound
  generalize bytes.drop lengthSize = rest
  by_cases hbounds : digestSize ≤ length ∧ length ≤ rest.length
  · obtain ⟨chunk, left, hfits, heq⟩ := exists_encode_append hbound hbounds.1 hbounds.2
    rw [heq]
    exact .chunk hfits
  · apply Beginning.fault
    apply FaultAt.badLength hbound
    omega

/-! ### Errors -/

/-- Bytes at fault are not taken apart. -/
theorem splitFrom_of_faultAt {index : Nat} {bytes : List UInt8} {e : Error}
    (h : FaultAt index bytes e) :
  splitFrom index bytes = .error e
  := by
  cases h with
  | noLength hne hshort => rw [splitFrom, if_neg hne, if_pos hshort]
  | @badLength length rest hlength hbounds =>
    have hfront : (littleEndian lengthSize length).length = lengthSize := length_littleEndian _ _
    have hlong : ¬ (littleEndian lengthSize length ++ rest).length < lengthSize := by
      rw [List.length_append]
      omega
    have hread : ofLittleEndian (littleEndian lengthSize length) = length :=
      ofLittleEndian_littleEndian (pow_lengthSize ▸ hlength)
    rw [splitFrom, if_neg (littleEndian_append_ne_nil length rest), if_neg hlong]
    dsimp only
    simp only [List.take_left' hfront, List.drop_left' hfront, hread]
    rw [dif_neg]
    omega

/-- Bytes are not taken apart exactly when there is a fault behind some chunks, and the error is
that fault under its index. -/
theorem splitFrom_eq_error_iff {index : Nat} {bytes : List UInt8} {e : Error} :
  splitFrom index bytes = .error e ↔
    ∃ (chunks : List Chunk) (rest : List UInt8), (∀ chunk ∈ chunks, chunk.Fits) ∧
      bytes = chunks.flatMap encode ++ rest ∧ FaultAt (index + chunks.length) rest e
  := by
  constructor
  · intro h
    induction hlength : bytes.length using Nat.strong_induction_on generalizing index bytes with
    | _ length ih =>
      cases beginning index bytes with
      | nothing =>
        rw [splitFrom, if_pos rfl] at h
        cases h
      | @chunk chunk rest hfits =>
        rw [splitFrom_encode_append hfits, Except.map_eq_error_iff] at h
        have hshorter : rest.length < length := by
          have htwelve := chunk.le_length_encode
          rw [List.length_append] at hlength
          omega
        obtain ⟨chunks, left, hchunks, rfl, hfault⟩ := ih _ hshorter h rfl
        refine ⟨chunk :: chunks, left, List.forall_mem_cons.mpr ⟨hfits, hchunks⟩, ?_, ?_⟩
        · rw [List.flatMap_cons, List.append_assoc]
        · rwa [List.length_cons, Nat.add_comm chunks.length, ← Nat.add_assoc]
      | fault hfault =>
        obtain rfl := Except.error.inj ((splitFrom_of_faultAt hfault).symm.trans h)
        exact ⟨[], bytes, List.forall_mem_nil _, rfl, hfault⟩
  · rintro ⟨chunks, rest, hchunks, rfl, hfault⟩
    induction chunks generalizing index with
    | nil => exact splitFrom_of_faultAt hfault
    | cons chunk chunks ih =>
      obtain ⟨hfits, hothers⟩ := List.forall_mem_cons.mp hchunks
      rw [List.length_cons, Nat.add_comm chunks.length, ← Nat.add_assoc] at hfault
      rw [List.flatMap_cons, List.append_assoc, splitFrom_encode_append hfits,
        ih hothers hfault]
      rfl

/-- A fault is reported under its index. -/
theorem FaultAt.message {index : Nat} {bytes : List UInt8} {e : Error} (h : FaultAt index bytes e) :
  ∃ reason, e.message = label index ++ reason
  := by
  cases h with
  | noLength hne hshort => exact ⟨_, String.append_assoc ..⟩
  | badLength hlength hbounds =>
    rw [Error.message]
    simp only [String.append_assoc]
    exact ⟨_, rfl⟩

/-! ### Rounds -/

/-- What a round over bytes comes to. -/
inductive Round
  /-- There are no more bytes. -/
  | finished
  /-- A chunk was taken off the bytes. -/
  | took (chunk : Chunk) (rest : List UInt8)
  /-- The bytes are at fault. -/
  | failed (e : Error)
  /-- Something was cut beyond its end. -/
  | outOfBounds

/-- Takes a chunk of a length off bytes, without a look at how many there are. -/
def takeFramed (length : Nat) (bytes : List UInt8) : Round :=
  match cut? length bytes with
  | none => .outOfBounds
  | some (framed, rest) =>
    match cut? digestSize framed.val with
    | none => .outOfBounds
    | some (digest, payload) => .took ⟨digest, payload⟩ rest

/-- A round over the bytes behind a length. -/
def roundAfter (index length : Nat) (bytes : List UInt8) : Round :=
  if length < digestSize ∨ bytes.length < length then .failed (.badLength index length bytes.length)
  else takeFramed length bytes

/-- One round over bytes, in which a length is a word of 64 bits. -/
def round (index : Nat) (bytes : List UInt8) : Round :=
  if bytes = [] then .finished
  else
    match cut? lengthSize bytes with
    | none => .failed (.noLength index bytes.length)
    | some (field, rest) => roundAfter index (BitVec.ofNat 64 (ofLittleEndian field.val)).toNat rest

/-- What rounds over bytes come to, unless there are more than a number of them or something is cut
beyond its end. -/
def rounds : Nat → Nat → List UInt8 → Option (Except Error (List Chunk))
  | 0, _, _ => none
  | limit + 1, index, bytes =>
    match round index bytes with
    | .finished => some (.ok [])
    | .took chunk rest => (rounds limit (index + 1) rest).map (Except.map (chunk :: ·))
    | .failed e => some (.error e)
    | .outOfBounds => none

/-- A chunk is taken off bytes that begin with it behind its length. -/
theorem takeFramed_append (chunk : Chunk) (rest : List UInt8) :
  takeFramed (digestSize + chunk.payload.length) ((chunk.digest.val ++ chunk.payload) ++ rest)
    = .took chunk rest
  := by
  have hdigest : chunk.digest.val.length = digestSize := chunk.digest.property
  have hframed : (chunk.digest.val ++ chunk.payload).length
      = digestSize + chunk.payload.length := by
    rw [List.length_append, hdigest]
  rw [takeFramed, cut?_append hframed]
  dsimp only
  rw [cut?_append hdigest]
  rfl

/-- A round over bytes that hold a length is one over what follows it. -/
theorem round_littleEndian_append {length : Nat} (hlength : length < 2 ^ 64) (index : Nat)
    (rest : List UInt8) :
  round index (littleEndian lengthSize length ++ rest) = roundAfter index length rest
  := by
  have hfront : (littleEndian lengthSize length).length = lengthSize := length_littleEndian _ _
  have hword : (BitVec.ofNat 64 (ofLittleEndian (littleEndian lengthSize length))).toNat
      = length := by
    rw [ofLittleEndian_littleEndian (pow_lengthSize ▸ hlength), BitVec.toNat_ofNat,
      Nat.mod_eq_of_lt hlength]
  rw [round, if_neg (littleEndian_append_ne_nil length rest), cut?_append hfront]
  dsimp only
  rw [hword]

/-- A round takes a chunk off bytes that begin with it. -/
theorem round_encode_append {chunk : Chunk} (h : chunk.Fits) (index : Nat) (rest : List UInt8) :
  round index (chunk.encode ++ rest) = .took chunk rest
  := by
  have hlength : digestSize + chunk.payload.length < 2 ^ 64 := pow_lengthSize ▸ h
  have hbounds :
      ¬ (digestSize + chunk.payload.length < digestSize ∨
        ((chunk.digest.val ++ chunk.payload) ++ rest).length
          < digestSize + chunk.payload.length) := by
    have hdigest : chunk.digest.val.length = digestSize := chunk.digest.property
    rw [List.length_append, List.length_append, hdigest]
    omega
  rw [encode_append, round_littleEndian_append hlength, roundAfter, if_neg hbounds,
    takeFramed_append]

theorem round_of_faultAt {index : Nat} {bytes : List UInt8} {e : Error}
    (h : FaultAt index bytes e) :
  round index bytes = .failed e
  := by
  cases h with
  | noLength hne hshort => rw [round, if_neg hne, cut?_of_lt hshort]
  | badLength hlength hbounds =>
    rw [round_littleEndian_append hlength, roundAfter, if_pos hbounds]

/-- No round cuts beyond the end of anything. -/
theorem round_ne_outOfBounds (index : Nat) (bytes : List UInt8) :
  round index bytes ≠ .outOfBounds
  := by
  cases beginning index bytes with
  | nothing => nofun
  | chunk hfits =>
    rw [round_encode_append hfits]
    nofun
  | fault hfault =>
    rw [round_of_faultAt hfault]
    nofun

/-- A round that takes a chunk leaves at least twelve bytes less. -/
theorem length_of_round {index : Nat} {bytes rest : List UInt8} {chunk : Chunk}
    (h : round index bytes = .took chunk rest) :
  rest.length + 12 ≤ bytes.length
  := by
  cases beginning index bytes with
  | nothing => cases h
  | @chunk chunk' rest' hfits =>
    rw [round_encode_append hfits] at h
    cases h
    have htwelve := chunk.le_length_encode
    rw [List.length_append]
    omega
  | fault hfault =>
    rw [round_of_faultAt hfault] at h
    cases h

/-- With a round for every twelve bytes and one more, the rounds come to what taking the bytes apart
does. -/
theorem rounds_eq {limit : Nat} (index : Nat) {bytes : List UInt8} (h : bytes.length / 12 < limit) :
  rounds limit index bytes = some (splitFrom index bytes)
  := by
  induction limit generalizing index bytes with
  | zero => cases h
  | succ limit ih =>
    cases beginning index bytes with
    | nothing =>
      rw [splitFrom, if_pos rfl]
      rfl
    | @chunk chunk rest hfits =>
      have hrest : rest.length / 12 < limit := by
        have htwelve := chunk.le_length_encode
        rw [List.length_append] at h
        omega
      rw [rounds, round_encode_append hfits, splitFrom_encode_append hfits]
      dsimp only
      rw [ih (index + 1) hrest]
      rfl
    | fault hfault =>
      rw [rounds, round_of_faultAt hfault, splitFrom_of_faultAt hfault]

/-! ### Payloads -/

theorem zipWith_digest_payload (chunks : List Chunk) :
  List.zipWith Chunk.mk (chunks.map digest) (chunks.map payload) = chunks
  := by
  induction chunks with
  | nil => rfl
  | cons chunk rest ih => rw [List.map_cons, List.map_cons, List.zipWith_cons_cons, ih]

/-- Payloads that are framed are the payloads of the chunks. -/
theorem map_payload_zipWith {digests : List (Bytes 4)} {payloads : List (List UInt8)}
    (h : digests.length = payloads.length) :
  (List.zipWith Chunk.mk digests payloads).map payload = payloads
  := by
  induction digests generalizing payloads with
  | nil => rw [List.length_eq_zero_iff.mp h.symm, List.zipWith_nil_left, List.map_nil]
  | cons digest digests ih =>
    cases payloads with
    | nil => cases h
    | cons first payloads =>
      rw [List.zipWith_cons_cons, List.map_cons, ih (Nat.succ.inj h)]

theorem fits_iff {chunk : Chunk} :
  chunk.Fits ↔ chunk.payload.length < 2 ^ 64 - 4
  := by
  rw [Fits, pow_lengthSize, digestSize]
  omega

/-- A body is taken apart into payloads exactly when it is their frames, with some digests, one
after another. -/
theorem payloads_eq_ok_iff {bytes : List UInt8} {payloads : List (List UInt8)} :
  (split bytes).map (List.map payload) = .ok payloads ↔
    (∀ payload ∈ payloads, payload.length < 2 ^ 64 - 4) ∧
    ∃ digests : List (Bytes 4), digests.length = payloads.length ∧
      bytes = (List.zipWith Chunk.mk digests payloads).flatMap encode
  := by
  rw [Except.map_eq_ok_iff]
  simp only [split_eq_ok_iff, Frames, fits_iff]
  constructor
  · rintro ⟨chunks, ⟨hfits, rfl⟩, rfl⟩
    refine ⟨List.forall_mem_map.mpr hfits, chunks.map digest, ?_, ?_⟩
    · rw [List.length_map, List.length_map]
    · rw [zipWith_digest_payload]
  · rintro ⟨hfits, digests, hlength, rfl⟩
    have hpayloads := map_payload_zipWith hlength
    refine ⟨_, ⟨?_, rfl⟩, hpayloads⟩
    rw [← hpayloads] at hfits
    apply List.forall_mem_map.mp hfits

/-- Taking a body apart accepts exactly what is framed. A body comes apart into payloads exactly
when they are short enough for their lengths to be written and the body is their frames, with some
digests, one after another. Whatever the bytes, the rounds end, at the latest with one for every
twelve bytes and one more; each but the last leaves at least twelve bytes less; and none cuts
anything beyond its end. What fails does so exactly for the fault behind a number of whole chunks,
and the error names that number. -/
theorem framing_exact (bytes : List UInt8) :
  (∀ payloads, (split bytes).map (List.map payload) = .ok payloads ↔
    (∀ payload ∈ payloads, payload.length < 2 ^ 64 - 4) ∧
    ∃ digests : List (Bytes 4), digests.length = payloads.length ∧
      bytes = (List.zipWith Chunk.mk digests payloads).flatMap encode) ∧
  rounds (bytes.length / 12 + 1) 0 bytes = some (split bytes) ∧
  (∀ index, round index bytes ≠ .outOfBounds ∧
    ∀ chunk rest, round index bytes = .took chunk rest → rest.length + 12 ≤ bytes.length) ∧
  ∀ e, split bytes = .error e ↔
    ∃ (chunks : List Chunk) (rest : List UInt8), (∀ chunk ∈ chunks, chunk.Fits) ∧
      bytes = chunks.flatMap encode ++ rest ∧ FaultAt chunks.length rest e ∧
      ∃ reason, e.message = label chunks.length ++ reason
  := by
  refine ⟨?_, ?_, ?_, ?_⟩
  · intro payloads
    apply payloads_eq_ok_iff
  · apply rounds_eq 0 (Nat.lt_succ_self _)
  · intro index
    refine ⟨round_ne_outOfBounds index bytes, ?_⟩
    intro chunk rest h
    apply length_of_round h
  · intro e
    rw [split, splitFrom_eq_error_iff]
    constructor
    · rintro ⟨chunks, rest, hchunks, hbytes, hfault⟩
      rw [Nat.zero_add] at hfault
      exact ⟨chunks, rest, hchunks, hbytes, hfault, hfault.message⟩
    · rintro ⟨chunks, rest, hchunks, hbytes, hfault, -⟩
      rw [← Nat.zero_add chunks.length] at hfault
      exact ⟨chunks, rest, hchunks, hbytes, hfault⟩

/-- Two chunks come apart into their payloads. Without their last byte the first of them is whole,
and the second has three bytes left of the four it counts. -/
theorem framing_exact_dropLast :
  let one : Chunk := ⟨⟨[0, 0, 0, 0], rfl⟩, [1]⟩
  let none : Chunk := ⟨⟨[0, 0, 0, 0], rfl⟩, []⟩
  let body := one.encode ++ none.encode
  (split body).map (List.map payload) = .ok [[1], []] ∧
    split body.dropLast = .error (.badLength 1 4 3)
  := by
  intro one none body
  constructor
  · apply ((framing_exact body).1 [[1], []]).mpr
    exact ⟨by decide, [⟨[0, 0, 0, 0], rfl⟩, ⟨[0, 0, 0, 0], rfl⟩], rfl, by decide⟩
  · apply ((framing_exact body.dropLast).2.2.2 (.badLength 1 4 3)).mpr
    have hfits : ∀ chunk ∈ [one], chunk.Fits :=
      List.forall_mem_singleton.mpr (fits_iff.mpr (by decide))
    have hfault : FaultAt 1 (littleEndian lengthSize 4 ++ [0, 0, 0]) (.badLength 1 4 3) :=
      .badLength (by decide) (by decide)
    exact ⟨[one], _, hfits, by decide, hfault, hfault.message⟩

end Chunk

end BeaconLight

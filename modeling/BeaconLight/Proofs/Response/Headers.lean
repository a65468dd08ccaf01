import BeaconLight.Proofs.Json.Canonical
import BeaconLight.Response.Raw

/-!
# Collecting headers

A header is kept under the fork or under a key of the metadata, or it is not kept, and names that
differ may fall on one key. `Collects` says what a list of headers comes to: for the fork and for
each key the last header that falls on it counts. So two lists with the same headers for the fork
and for each key, each of them in the same order, come to the same response, in whatever order the
headers of different places stand.
-/

namespace BeaconLight.RawResponse

/-! ### Where headers fall -/

/-- A header names the fork. -/
def NamesFork (name : String) : Prop :=
  Text.lower name = "eth-consensus-version"

/-- A header falls on a key of the metadata: it does not name the fork, and in lower case its name
is `eth-` and a text that becomes the key when each hyphen becomes an underscore. -/
def FallsOn (key name : String) : Prop :=
  ¬ NamesFork name ∧ ∃ rest : List Char, (Text.lower name).toList = "eth-".toList ++ rest ∧
    key = String.ofList (rest.map fun c => if c = '-' then '_' else c)

/-- What the value of a header means as metadata. -/
inductive MeansValue : String → Json → Prop
  | yes : MeansValue "true" (.bool true)
  | no : MeansValue "false" (.bool false)
  | text {value : String} (h : value ≠ "true") (h' : value ≠ "false") :
    MeansValue value (.string value)

/-- A key is made of a name exactly when the name is `eth-` and a text that becomes the key. -/
theorem metadataKey?_eq_some_iff {key name : String} :
  metadataKey? name = some key ↔ ∃ rest : List Char, name.toList = "eth-".toList ++ rest ∧
    key = String.ofList (rest.map fun c => if c = '-' then '_' else c)
  := by
  unfold metadataKey?
  constructor
  · intro h
    split at h
    · next rest hname =>
      exact ⟨rest, hname, (Option.some.inj h).symm⟩
    · cases h
  · rintro ⟨rest, hname, rfl⟩
    rw [hname]
    rfl

/-- A header goes to the fork exactly when it names it. -/
theorem destination_eq_version_iff {name : String} :
  destination name = .version ↔ NamesFork name
  := by
  rw [destination, NamesFork, versionHeader]
  split
  · next hname => simp [hname]
  · next hname =>
    cases metadataKey? (Text.lower name) with
    | some key => simp [hname]
    | none => simp [hname]

/-- A header goes to the metadata under a key exactly when it falls on that key. -/
theorem destination_eq_metadata_iff {key name : String} :
  destination name = .metadata key ↔ FallsOn key name
  := by
  rw [destination, FallsOn, NamesFork, versionHeader, ← metadataKey?_eq_some_iff]
  split
  · next hname => simp [hname]
  · next hname =>
    cases metadataKey? (Text.lower name) with
    | some key' => simp [hname]
    | none => simp [hname]

instance (name : String) : Decidable (NamesFork name) :=
  inferInstanceAs (Decidable (Text.lower name = "eth-consensus-version"))

instance (key name : String) : Decidable (FallsOn key name) :=
  decidable_of_iff (destination name = .metadata key) destination_eq_metadata_iff

/-- The value of a header means one value of the metadata. -/
theorem meansValue_iff {value : String} {json : Json} :
  MeansValue value json ↔ metadataValue value = json
  := by
  unfold metadataValue
  constructor
  · rintro (_ | _ | ⟨htrue, hfalse⟩)
    · rfl
    · rfl
    · rw [if_neg htrue, if_neg hfalse]
  · rintro rfl
    split
    · next htrue =>
      rw [htrue]
      exact .yes
    · next htrue =>
      split
      · next hfalse =>
        rw [hfalse]
        exact .no
      · next hfalse => exact .text htrue hfalse

/-! ### The last header -/

section Last

variable {falls : String → Prop} {headers : List (String × String)} {name last value : String}

/-- Of the headers whose names satisfy a condition the last has a value. -/
def IsLast (falls : String → Prop) (headers : List (String × String)) (value : String) : Prop :=
  ∃ before name after, headers = before ++ (name, value) :: after ∧ falls name ∧
    ∀ header ∈ after, ¬ falls header.1

theorem not_isLast_nil :
  ¬ IsLast falls [] value
  := by
  rintro ⟨before, name, after, h, -⟩
  cases (List.append_eq_nil_iff.mp h.symm).2

/-- Of headers and one more that one is the last if it satisfies the condition. -/
theorem isLast_append_of_falls (h : falls name) :
  IsLast falls (headers ++ [(name, last)]) value ↔ last = value
  := by
  constructor
  · rintro ⟨before, name', after, hheaders, -, hafter⟩
    rcases List.eq_nil_or_concat after with rfl | ⟨others, header, rfl⟩
    · obtain ⟨-, hsingle⟩ := List.append_inj' hheaders rfl
      cases hsingle
      rfl
    · rw [List.concat_eq_append, ← List.cons_append, ← List.append_assoc] at hheaders
      obtain ⟨-, hsingle⟩ := List.append_inj' hheaders rfl
      obtain rfl := List.singleton_inj.mp hsingle
      exact absurd h (hafter (name, last) (by simp))
  · rintro rfl
    exact ⟨headers, name, [], rfl, h, by simp⟩

/-- Otherwise the last is that of the headers in front. -/
theorem isLast_append_of_not_falls (h : ¬ falls name) :
  IsLast falls (headers ++ [(name, last)]) value ↔ IsLast falls headers value
  := by
  constructor
  · rintro ⟨before, name', after, hheaders, hfalls, hafter⟩
    rcases List.eq_nil_or_concat after with rfl | ⟨others, header, rfl⟩
    · obtain ⟨-, hsingle⟩ := List.append_inj' hheaders rfl
      cases hsingle
      exact absurd hfalls h
    · rw [List.concat_eq_append, ← List.cons_append, ← List.append_assoc] at hheaders
      obtain ⟨hfront, -⟩ := List.append_inj' hheaders rfl
      refine ⟨before, name', others, hfront, hfalls, ?_⟩
      intro other hother
      apply hafter other
      rw [List.concat_eq_append]
      apply List.mem_append_left _ hother
  · rintro ⟨before, name', after, rfl, hfalls, hafter⟩
    refine ⟨before, name', after ++ [(name, last)], by simp, hfalls, ?_⟩
    intro other hother
    rcases List.mem_append.mp hother with hother | hother
    · exact hafter other hother
    · rw [List.mem_singleton.mp hother]
      exact h

/-- The last header is found among those that satisfy the condition. -/
theorem isLast_iff_filter [DecidablePred falls] :
  IsLast falls headers value ↔
    ((headers.filter fun header => falls header.1).getLast?).map Prod.snd = some value
  := by
  induction headers using List.reverseRecOn with
  | nil => simp [not_isLast_nil]
  | append_singleton others header ih =>
    obtain ⟨name, last⟩ := header
    by_cases h : falls name
    · rw [isLast_append_of_falls h]
      simp [h]
    · rw [isLast_append_of_not_falls h, ih]
      simp [h]

/-- There is a last header exactly when there is one that satisfies the condition. -/
theorem exists_isLast_iff :
  (∃ value, IsLast falls headers value) ↔ ∃ header ∈ headers, falls header.1
  := by
  induction headers using List.reverseRecOn with
  | nil => simp [not_isLast_nil]
  | append_singleton others header ih =>
    obtain ⟨name, last⟩ := header
    by_cases h : falls name
    · simp [isLast_append_of_falls h, h]
    · simp [isLast_append_of_not_falls h, ih, h]

end Last

/-! ### Adding a header -/

section Insert

variable {raw : RawResponse}

/-- The fork is that of the header if it names it, and otherwise what it was. -/
theorem consensusVersion_insertHeader (raw : RawResponse) (name value : String) :
  (raw.insertHeader name value).consensusVersion
    = if NamesFork name then some value else raw.consensusVersion
  := by
  simp only [← destination_eq_version_iff]
  unfold insertHeader
  cases destination name with
  | version => rfl
  | metadata key => rfl
  | nowhere => rfl

/-- Under the key that the header falls on is what its value means, and under others what was
there. -/
theorem find?_insertHeader (h : Json.IsSorted raw.metadata) (key name value : String) :
  Json.find? key (raw.insertHeader name value).metadata
    = if FallsOn key name then some (metadataValue value) else Json.find? key raw.metadata
  := by
  simp only [← destination_eq_metadata_iff]
  unfold insertHeader
  cases destination name with
  | version => rfl
  | nowhere => rfl
  | metadata other =>
    simp only [Destination.metadata.injEq]
    by_cases hkey : other = key
    · rw [if_pos hkey, hkey, h.find?_insert_self]
    · rw [if_neg hkey, Json.find?_insert_of_ne (Ne.symm hkey)]

theorem isSorted_insertHeader (h : Json.IsSorted raw.metadata) (name value : String) :
  Json.IsSorted (raw.insertHeader name value).metadata
  := by
  unfold insertHeader
  cases destination name with
  | version => exact h
  | metadata key => exact h.insert key (metadataValue value)
  | nowhere => exact h

theorem contentType_insertHeader (raw : RawResponse) (name value : String) :
  (raw.insertHeader name value).contentType = raw.contentType
  := by
  unfold insertHeader
  cases destination name with
  | version => rfl
  | metadata key => rfl
  | nowhere => rfl

theorem body_insertHeader (raw : RawResponse) (name value : String) :
  (raw.insertHeader name value).body = raw.body
  := by
  unfold insertHeader
  cases destination name with
  | version => rfl
  | metadata key => rfl
  | nowhere => rfl

end Insert

/-! ### What headers come to -/

/-- A response holds what a list of headers comes to, and nothing else. -/
structure Collects (headers : List (String × String)) (raw : RawResponse) : Prop where
  consensusVersion : ∀ value : String,
    raw.consensusVersion = some value ↔ IsLast NamesFork headers value
  metadata : ∀ (key : String) (json : Json),
    Json.find? key raw.metadata = some json ↔
      ∃ value, IsLast (FallsOn key) headers value ∧ MeansValue value json
  isSorted : Json.IsSorted raw.metadata
  contentType : raw.contentType = none
  body : raw.body = []

/-- The same headers name the fork in both lists, in the same order, and the same fall on each key
of the metadata, in the same order. -/
structure SamePlaces (headers headers' : List (String × String)) : Prop where
  fork : (headers.filter fun header => NamesFork header.1)
    = headers'.filter fun header => NamesFork header.1
  keys : ∀ key : String, (headers.filter fun header => FallsOn key header.1)
    = headers'.filter fun header => FallsOn key header.1

namespace Collects

variable {headers headers' : List (String × String)} {raw raw' : RawResponse}

/-- An empty response holds what no headers come to. -/
theorem empty :
  Collects [] empty
  where
  consensusVersion value := by simp [RawResponse.empty, not_isLast_nil]
  metadata key json := by simp [RawResponse.empty, Json.find?, not_isLast_nil]
  isSorted := List.Pairwise.nil
  contentType := rfl
  body := rfl

/-- Each header that is added makes of a response what the headers and that one come to. -/
theorem insertHeader (h : Collects headers raw) (name last : String) :
  Collects (headers ++ [(name, last)]) (raw.insertHeader name last)
  where
  consensusVersion value := by
    rw [consensusVersion_insertHeader]
    by_cases hfork : NamesFork name
    · rw [if_pos hfork, isLast_append_of_falls hfork, Option.some.injEq]
    · rw [if_neg hfork, isLast_append_of_not_falls hfork, h.consensusVersion]
  metadata key json := by
    rw [find?_insertHeader h.isSorted]
    by_cases hkey : FallsOn key name
    · simp only [if_pos hkey, isLast_append_of_falls hkey, exists_eq_left', meansValue_iff,
        Option.some.injEq]
    · simp only [if_neg hkey, isLast_append_of_not_falls hkey, h.metadata key json]
  isSorted := isSorted_insertHeader h.isSorted name last
  contentType := (contentType_insertHeader raw name last).trans h.contentType
  body := (body_insertHeader raw name last).trans h.body

/-- An empty response to which headers are added holds what they come to. -/
theorem insertHeaders (headers : List (String × String)) :
  Collects headers (RawResponse.empty.insertHeaders headers)
  := by
  induction headers using List.reverseRecOn with
  | nil => exact empty
  | append_singleton others header ih =>
    rw [RawResponse.insertHeaders, List.foldl_append]
    exact ih.insertHeader header.1 header.2

/-- What headers come to depends only on those of each place and their order. -/
theorem eq_of_samePlaces (h : Collects headers raw) (h' : Collects headers' raw')
    (hplaces : SamePlaces headers headers') :
  raw = raw'
  := by
  have hversion : raw.consensusVersion = raw'.consensusVersion := by
    apply Option.ext
    intro value
    rw [h.consensusVersion, h'.consensusVersion, isLast_iff_filter, isLast_iff_filter,
      hplaces.fork]
  have hmetadata : raw.metadata = raw'.metadata := by
    apply h.isSorted.eq_of_find?_eq h'.isSorted
    intro key
    apply Option.ext
    intro json
    simp only [h.metadata, h'.metadata, isLast_iff_filter, hplaces.keys key]
  obtain ⟨contentType, consensusVersion, metadata, body⟩ := raw
  obtain ⟨contentType', consensusVersion', metadata', body'⟩ := raw'
  obtain rfl : contentType = contentType' := h.contentType.trans h'.contentType.symm
  obtain rfl : body = body' := h.body.trans h'.body.symm
  obtain rfl : consensusVersion = consensusVersion' := hversion
  obtain rfl : metadata = metadata' := hmetadata
  rfl

end Collects

/-- Neighbours on different places may change their order. -/
theorem samePlaces_swap (before after : List (String × String)) {first second : String × String}
    (hfork : ¬ (NamesFork first.1 ∧ NamesFork second.1))
    (hkeys : ∀ key, ¬ (FallsOn key first.1 ∧ FallsOn key second.1)) :
  SamePlaces (before ++ first :: second :: after) (before ++ second :: first :: after)
  := by
  have hswap (p : String → Prop) [DecidablePred p] (h : ¬ (p first.1 ∧ p second.1)) :
      ((before ++ first :: second :: after).filter fun header => p header.1)
        = (before ++ second :: first :: after).filter fun header => p header.1 := by
    rw [List.filter_append, List.filter_append]
    by_cases hfirst : p first.1
    · have hsecond : ¬ p second.1 := fun hsecond => h ⟨hfirst, hsecond⟩
      simp [hfirst, hsecond]
    · simp [List.filter_cons, hfirst]
  exact ⟨hswap NamesFork hfork, fun key => hswap (FallsOn key) (hkeys key)⟩

/-- Headers that are added to an empty response leave in it the last one that names the fork and,
under each key that one falls on, what the last one that does means, and nothing else. Every list
with the same headers for each of these places in the same order comes to the same response. -/
theorem last_header_counts (headers : List (String × String)) :
  let raw := empty.insertHeaders headers
  Collects headers raw ∧
  (∀ key : String, (∃ json, Json.find? key raw.metadata = some json) ↔
    ∃ header ∈ headers, FallsOn key header.1) ∧
  ∀ headers' : List (String × String), SamePlaces headers headers' →
    empty.insertHeaders headers' = raw
  := by
  intro raw
  have hraw : Collects headers raw := .insertHeaders headers
  refine ⟨hraw, ?_, ?_⟩
  · intro key
    rw [← exists_isLast_iff]
    constructor
    · rintro ⟨json, hfind⟩
      obtain ⟨value, hlast, -⟩ := (hraw.metadata key json).mp hfind
      exact ⟨value, hlast⟩
    · rintro ⟨value, hlast⟩
      exact ⟨_, (hraw.metadata key _).mpr ⟨value, hlast, meansValue_iff.mpr rfl⟩⟩
  · intro headers' hplaces
    exact (hraw.eq_of_samePlaces (.insertHeaders headers') hplaces).symm

/-- Two names that fall on one key keep their order, and a header between them may come first. -/
theorem last_header_counts_collision :
  let headers := [("Eth-Finalized-Root", "true"), ("Eth-Consensus-Version", "deneb"),
    ("eth-finalized_root", "0xab")]
  let headers' := [("Eth-Consensus-Version", "deneb"), ("Eth-Finalized-Root", "true"),
    ("eth-finalized_root", "0xab")]
  SamePlaces headers headers' ∧ empty.insertHeaders headers' = empty.insertHeaders headers
  := by
  intro headers headers'
  have hplaces : SamePlaces headers headers' := by
    apply samePlaces_swap []
    · decide +kernel
    · rintro key ⟨-, hfork, -⟩
      apply hfork
      decide +kernel
  obtain ⟨-, -, hsame⟩ := last_header_counts headers
  exact ⟨hplaces, hsame headers' hplaces⟩

end BeaconLight.RawResponse

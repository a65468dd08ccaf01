import BeaconLight.Proofs.Json.Members
import BeaconLight.Response.Raw

/-!
# Metadata in headers

`HeaderMetadata` is what headers can say about the data of a response beside the fork: truth
values and texts under keys that a header name keeps as they are. Each header brings back the key
and the value it is made from, so the headers together bring back the metadata, sorted.
-/

namespace BeaconLight

/-- A value that a header can carry: a truth value, or a text that spells none. -/
inductive HeaderValue
  | flag (value : Bool)
  | text (value : String) (h : value ≠ "true" ∧ value ≠ "false")

namespace HeaderValue

/-- The value as JSON. -/
def toJson : HeaderValue → Json
  | .flag value => .bool value
  | .text value _ => .string value

/-- The value as the text of a header. -/
def spell : HeaderValue → String
  | .flag true => "true"
  | .flag false => "false"
  | .text value _ => value

/-- A value is brought back by its header. -/
theorem metadataValue_spell (value : HeaderValue) :
  RawResponse.metadataValue value.spell = value.toJson
  := by
  cases value with
  | flag value =>
    cases value
    all_goals rfl
  | text value h =>
    rw [spell, RawResponse.metadataValue, if_neg h.1, if_neg h.2]
    rfl

theorem canonical_toJson (value : HeaderValue) :
  value.toJson.canonical = value.toJson
  := by
  cases value
  all_goals simp [toJson, Json.canonical]

end HeaderValue

/-- A key that a header can carry: it has no letter in upper case and no hyphen, and means
neither the data nor the fork. -/
structure IsHeaderKey (key : String) : Prop where
  lower : ∀ c ∈ key.toList, c.isUpper = false
  noHyphen : ∀ c ∈ key.toList, c ≠ '-'
  ne_data : key ≠ "data"
  ne_version : key ≠ "version"
  ne_consensusVersion : key ≠ "consensus_version"

/-- An underscore as it is in the name of a header. -/
def hyphenate (c : Char) : Char :=
  if c = '_' then '-' else c

/-- The header of a key. -/
def headerName (key : String) : String :=
  "Eth-" ++ String.ofList (key.toList.map hyphenate)

/-- Metadata that headers can carry: keys that are all different, and their values. -/
structure HeaderMetadata where
  entries : List (String × HeaderValue)
  nodup : (entries.map Prod.fst).Nodup
  isHeaderKey : ∀ entry ∈ entries, IsHeaderKey entry.1

namespace HeaderMetadata

/-- The metadata as headers. -/
def headers (metadata : HeaderMetadata) : List (String × String) :=
  metadata.entries.map fun entry => (headerName entry.1, entry.2.spell)

/-- The metadata as members of an object. -/
def members (metadata : HeaderMetadata) : Json.Members :=
  metadata.entries.map fun entry => (entry.1, entry.2.toJson)

theorem map_fst_members (metadata : HeaderMetadata) :
  metadata.members.map Prod.fst = metadata.entries.map Prod.fst
  := by
  rw [members, List.map_map]
  rfl

theorem isHeaderKey_of_mem (metadata : HeaderMetadata) {name : String}
    (h : name ∈ metadata.members.map Prod.fst) :
  IsHeaderKey name
  := by
  rw [map_fst_members] at h
  obtain ⟨entry, hentry, rfl⟩ := List.mem_map.mp h
  apply metadata.isHeaderKey entry hentry

end HeaderMetadata

/-! ### Reading headers -/

theorem toLower_of_not_isUpper {c : Char} (h : c.isUpper = false) :
  c.toLower = c
  := dif_neg (decide_eq_false_iff_not.mp h)

theorem toLower_hyphenate {c : Char} (h : c.isUpper = false) :
  (hyphenate c).toLower = hyphenate c
  := by
  unfold hyphenate
  split
  · rfl
  · apply toLower_of_not_isUpper h

theorem hyphen_hyphenate {c : Char} (h : c ≠ '-') :
  (if hyphenate c = '-' then '_' else hyphenate c) = c
  := by
  by_cases hunderscore : c = '_'
  · rw [hunderscore]
    rfl
  · rw [hyphenate, if_neg hunderscore, if_neg h]

/-- The header of a key in lower case. -/
theorem lower_headerName {key : String} (h : IsHeaderKey key) :
  Text.lower (headerName key) = String.ofList ("eth-".toList ++ key.toList.map hyphenate)
  := by
  have hkey : (key.toList.map hyphenate).map Char.toLower = key.toList.map hyphenate := by
    rw [List.map_map]
    apply List.map_congr_left
    intro c hc
    exact toLower_hyphenate (h.lower c hc)
  rw [Text.lower, headerName, String.toList_append, String.toList_ofList, String.toList_ofList,
    List.map_append, hkey]
  rfl

/-- A key is brought back by its header. -/
theorem metadataKey?_headerName {key : String} (h : IsHeaderKey key) :
  RawResponse.metadataKey? (Text.lower (headerName key)) = some key
  := by
  have hkey : (key.toList.map hyphenate).map (fun c => if c = '-' then '_' else c)
      = key.toList := by
    rw [List.map_map]
    apply (List.map_congr_left _).trans (List.map_id _)
    intro c hc
    exact hyphen_hyphenate (h.noHyphen c hc)
  rw [lower_headerName h, RawResponse.metadataKey?, String.toList_ofList]
  show some (String.ofList ((key.toList.map hyphenate).map _)) = some key
  rw [hkey, String.ofList_toList]

/-- The header of a key goes to the metadata under the key. -/
theorem destination_headerName {key : String} (h : IsHeaderKey key) :
  RawResponse.destination (headerName key) = .metadata key
  := by
  have hkey := metadataKey?_headerName h
  have hversion : Text.lower (headerName key) ≠ RawResponse.versionHeader := by
    intro hname
    rw [hname] at hkey
    apply h.ne_consensusVersion
    exact (Option.some.inj hkey).symm
  rw [RawResponse.destination, if_neg hversion, hkey]

namespace RawResponse

theorem insertHeader_headerName {key : String} (h : IsHeaderKey key) (value : HeaderValue)
    (raw : RawResponse) :
  raw.insertHeader (headerName key) value.spell
    = { raw with metadata := Json.insert key value.toJson raw.metadata }
  := by rw [insertHeader, destination_headerName h, value.metadataValue_spell]

/-- Headers put what they are made from in the metadata, one after another. -/
theorem insertHeaders_map (entries : List (String × HeaderValue)) (raw : RawResponse)
    (h : ∀ entry ∈ entries, IsHeaderKey entry.1) :
  raw.insertHeaders (entries.map fun entry => (headerName entry.1, entry.2.spell))
    = { raw with
        metadata := (entries.map fun entry => (entry.1, entry.2.toJson)).foldl
          (fun done member => Json.insert member.1 member.2 done) raw.metadata }
  := by
  induction entries generalizing raw with
  | nil => rfl
  | cons entry rest ih =>
    obtain ⟨hentry, hrest⟩ := List.forall_mem_cons.mp h
    rw [insertHeaders, List.map_cons, List.foldl_cons, insertHeader_headerName hentry]
    apply ih _ hrest

/-- The headers of metadata bring them back sorted and leave the rest of the response alone. -/
theorem insertHeaders_headers {raw : RawResponse} (h : raw.metadata = [])
    (metadata : HeaderMetadata) :
  raw.insertHeaders metadata.headers = { raw with metadata := Json.sorted metadata.members }
  := by
  rw [HeaderMetadata.headers, insertHeaders_map _ raw metadata.isHeaderKey, h]
  rfl

end RawResponse

end BeaconLight

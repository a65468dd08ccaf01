import BeaconLight.Proofs.Pool.Config
import BeaconLight.Proofs.Url.Below

/-!
# Block ids in requests

A block is named in the path of a request as the caller names it, and the path is read as part of a
URL again. So a block id leads where any text behind a slash does: one that is plain is asked for as
it is, and no other is. Dot segments lead out of the path, a question mark or a number sign ends it,
a backslash becomes a slash, and other characters are escaped.
-/

namespace BeaconLight

open Url

/-! ### Requests below a base -/

namespace Request

/-- What the path of a request for a block has in front of the block id, without the first slash. -/
def bootstrapRest : String := "eth/v1/beacon/light_client/bootstrap/"

/-- The query of a request for updates. -/
def updatesQuery (startPeriod count : Nat) : String :=
  "start_period=" ++ Text.decimal startPeriod ++ "&count=" ++ Text.decimal count

/-- The path of a request, with its query, behind its first slash. -/
def rest : Request → String
  | .spec => "eth/v1/config/spec"
  | .bootstrap blockId => bootstrapRest ++ blockId
  | .updates startPeriod count =>
    "eth/v1/beacon/light_client/updates" ++ ("?" ++ updatesQuery startPeriod count)
  | .finalityUpdate => "eth/v1/beacon/light_client/finality_update"
  | .optimisticUpdate => "eth/v1/beacon/light_client/optimistic_update"

theorem rest_bootstrap (blockId : String) :
  (bootstrap blockId).rest = bootstrapRest ++ blockId
  := rfl

theorem rest_updates (startPeriod count : Nat) :
  (updates startPeriod count).rest =
    "eth/v1/beacon/light_client/updates" ++ ("?" ++ updatesQuery startPeriod count)
  := rfl

/-- The path of a request starts with a slash. -/
theorem path_eq (r : Request) :
  r.path = "/" ++ r.rest
  := by
  -- The texts are closed terms, which the kernel compares as bytes.
  cases r with
  | spec => decide +kernel
  | bootstrap blockId =>
    have hliteral : "/eth/v1/beacon/light_client/bootstrap/" = "/" ++ bootstrapRest := by
      decide +kernel
    change "/eth/v1/beacon/light_client/bootstrap/" ++ blockId = _
    rw [rest_bootstrap, hliteral, String.append_assoc]
  | updates start count =>
    have hliteral : "/eth/v1/beacon/light_client/updates?start_period=" =
        "/" ++ ("eth/v1/beacon/light_client/updates" ++ ("?" ++ "start_period=")) := by
      decide +kernel
    change "/eth/v1/beacon/light_client/updates?start_period=" ++ Text.decimal start ++ "&count="
      ++ Text.decimal count = "/" ++ ("eth/v1/beacon/light_client/updates" ++ ("?" ++
        ("start_period=" ++ Text.decimal start ++ "&count=" ++ Text.decimal count)))
    rw [hliteral]
    simp only [String.append_assoc]
  | finalityUpdate => decide +kernel
  | optimisticUpdate => decide +kernel

end Request

namespace Node

variable {n : Node} {r : Request} {scheme : WebScheme} {rest : List Char} {u v : WebUrl}

/-- Only slashes are taken off the end of a text. -/
theorem exists_slashes (text : String) :
  ∃ slashes, (∀ c ∈ slashes, c = '/') ∧ trimSlashes text ++ String.ofList slashes = text
  := by
  refine ⟨text.toList.rtakeWhile (· == '/'), ?_, ?_⟩
  · intro c hc
    have hslash := List.mem_rtakeWhile_imp hc
    exact eq_of_beq hslash
  · apply String.toList_injective
    rw [String.toList_append, String.toList_ofList, trimSlashes, String.toList_ofList]
    exact List.rdropWhile_append_rtakeWhile

/-- What is sent for a request when its URL is one: the URL, unless it is too long. -/
def send (n : Node) (r : Request) (url : WebUrl) : Except Unsent Get :=
  if url.render.utf8ByteSize ≤ longestUrl then .ok ⟨url, n.encodingFor r⟩ else .error .badUrl

/-- A request is sent for the URL that its path leads to below the one of the base, if there is
one. -/
theorem get_eq (h : IsBase n.baseUrl scheme rest) (hscheme : scheme = .http ∨ scheme = .https)
    (r : Request) :
  n.get r =
    match root? n.baseUrl with
    | none => .error .badUrl
    | some v => n.send r (v.below (cleanBack r.rest))
  := by
  rw [get, r.path_eq, ← String.append_assoc, h.parse?_append]
  cases hroot : root? n.baseUrl with
  | none => rfl
  | some v =>
    dsimp only [Option.map_some]
    rw [WebUrl.scheme_below, h.scheme_eq hroot, if_pos hscheme, send]

/-- A request is sent exactly when there is a URL below that of the base and it is not too long. -/
theorem get_eq_ok_iff (h : IsBase n.baseUrl scheme rest)
    (hscheme : scheme = .http ∨ scheme = .https) {g : Get} :
  n.get r = .ok g ↔ ∃ v, root? n.baseUrl = some v ∧
    g = ⟨v.below (cleanBack r.rest), n.encodingFor r⟩ ∧
    (v.below (cleanBack r.rest)).render.utf8ByteSize ≤ longestUrl
  := by
  rw [get_eq h hscheme]
  cases root? n.baseUrl with
  | none => simp
  | some v =>
    dsimp only
    rw [send]
    constructor
    · intro h
      split at h
      case isFalse => cases h
      case isTrue hfits =>
        cases h
        exact ⟨v, rfl, rfl, hfits⟩
    · rintro ⟨_, ⟨rfl⟩, rfl, hfits⟩
      exact if_pos hfits

end Node

/-! ### Plain block ids -/

namespace Request

variable {blockId : String} {r : Request}

/-- The path of a request for a block is plain exactly when the block id is. -/
theorem isPlain_rest_bootstrap_iff :
  IsPlain (bootstrap blockId).rest.toList ↔ IsPlain blockId.toList
  := by
  have hrest : (bootstrap blockId).rest.toList =
      "eth/v1/beacon/light_client/bootstrap".toList ++ '/' :: blockId.toList := by
    have hliteral : bootstrapRest.toList =
        "eth/v1/beacon/light_client/bootstrap".toList ++ ['/'] := by
      decide +kernel
    rw [rest_bootstrap, String.toList_append, hliteral, List.append_assoc]
    rfl
  have hfront : IsPlain "eth/v1/beacon/light_client/bootstrap".toList := by
    decide +kernel
  rw [hrest, isPlain_append_slash_iff]
  exact and_iff_right hfront

theorem query_below_updates (v : WebUrl) (start count : Nat) :
  (v.below (cleanBack (updates start count).rest)).query ≠ none
  := by
  rw [WebUrl.query_below, rest_updates, cleanBack_append_question]
  apply readQuery?_queryPart_ne_none
  decide +kernel

/-- The path of a request that has no query is plain. -/
theorem isPlain_rest_of_operation (h : r.operation ≠ .bootstrap)
    (hupdates : r.operation ≠ .updates) :
  IsPlain r.rest.toList
  := by
  cases r with
  | bootstrap => exact absurd rfl h
  | updates => exact absurd rfl hupdates
  | spec => decide +kernel
  | finalityUpdate => decide +kernel
  | optimisticUpdate => decide +kernel

/-- A request of another operation that has no query does not name a block. -/
theorem rest_bootstrap_ne (h : r.operation ≠ .bootstrap) (hupdates : r.operation ≠ .updates) :
  (bootstrap blockId).rest ≠ r.rest
  := by
  intro hrest
  have hprefix : bootstrapRest.toList <+: r.rest.toList := by
    rw [← hrest, rest_bootstrap, String.toList_append]
    exact List.prefix_append _ _
  cases r with
  | bootstrap => exact absurd rfl h
  | updates => exact absurd rfl hupdates
  | spec => exact absurd hprefix (by decide +kernel)
  | finalityUpdate => exact absurd hprefix (by decide +kernel)
  | optimisticUpdate => exact absurd hprefix (by decide +kernel)

end Request

/-! ### Requests for the path as it is -/

namespace WebUrl

variable {u v : WebUrl} {r : Request}

/-- A URL has the path of another without the slashes at its end and behind it the path of a
request, at the same server and without a query. -/
structure IsVerbatim (u : WebUrl) (r : Request) (url : WebUrl) : Prop where
  sameServer : u.SameServer url
  path : url.renderPath = Node.trimSlashes u.renderPath ++ r.path
  query : url.query = none

/-- The text of such a URL. -/
def appended (u : WebUrl) (r : Request) : String :=
  u.scheme.name ++ "://" ++ u.authority ++ (Node.trimSlashes u.renderPath ++ r.path)

/-- A URL that ends in a slash has the path of another without the slashes at its end, and the one
slash. -/
structure Opens (u v : WebUrl) : Prop where
  sameServer : u.SameServer v
  path : v.renderPath = Node.trimSlashes u.renderPath ++ "/"

theorem IsVerbatim.render_eq {url : WebUrl} (h : u.IsVerbatim r url) :
  url.render = u.appended r
  := by
  rw [render, target, h.query, appended, h.sameServer.scheme_eq, h.sameServer.authority_eq,
    ← h.path]

end WebUrl

namespace Node

variable {n : Node} {r : Request} {scheme : WebScheme} {rest : List Char} {u v : WebUrl}

/-- The URL below another has the path of the request as it is exactly when the path is plain and
the other one opens it. -/
theorem isVerbatim_below_iff (hv : v.EndsInSlash) (hpath : ∀ s ∈ v.path, IsSegment s.toList) :
  u.IsVerbatim r (v.below (cleanBack r.rest)) ↔ u.Opens v ∧ IsPlain r.rest.toList
  := by
  constructor
  · intro h
    have hplain : IsPlain r.rest.toList := by
      have htext := congrArg String.toList h.path
      rw [r.path_eq, String.toList_append, String.toList_append] at htext
      exact WebUrl.isPlain_of_toList_renderPath (v.isSegment_below _ hpath) htext
    refine ⟨⟨WebUrl.sameServer_below_iff.mp h.sameServer, ?_⟩, hplain⟩
    have hrest := h.path
    rw [hv.renderPath_below hplain, r.path_eq, ← String.append_assoc] at hrest
    exact (String.append_left_inj _).mp hrest
  · rintro ⟨hopens, hplain⟩
    refine ⟨WebUrl.sameServer_below_iff.mpr hopens.sameServer, ?_, hv.query_below_eq_none hplain⟩
    rw [hv.renderPath_below hplain, hopens.path, r.path_eq, String.append_assoc]

section Base

variable (h : IsBase n.baseUrl scheme rest) (hscheme : scheme = .http ∨ scheme = .https)

include h hscheme

/-- A request is sent for its path as it is exactly when the path is plain, the URL of the base
opens it, and the two are not too long together. -/
theorem get_isVerbatim_iff :
  (∃ g, n.get r = .ok g ∧ u.IsVerbatim r g.url) ↔
    (∃ v, root? n.baseUrl = some v ∧ u.Opens v) ∧ IsPlain r.rest.toList ∧
      (u.appended r).utf8ByteSize ≤ longestUrl
  := by
  constructor
  · rintro ⟨g, hget, hverbatim⟩
    obtain ⟨v, hv, rfl, hfits⟩ := (get_eq_ok_iff h hscheme).mp hget
    obtain ⟨hopens, hplain⟩ :=
      (isVerbatim_below_iff (h.endsInSlash hv) (h.isSegment hv)).mp hverbatim
    rw [hverbatim.render_eq] at hfits
    exact ⟨⟨v, hv, hopens⟩, hplain, hfits⟩
  · rintro ⟨⟨v, hv, hopens⟩, hplain, hfits⟩
    have hverbatim :=
      (isVerbatim_below_iff (h.endsInSlash hv) (h.isSegment hv)).mpr ⟨hopens, hplain⟩
    rw [← hverbatim.render_eq] at hfits
    exact ⟨_, (get_eq_ok_iff h hscheme).mpr ⟨v, hv, rfl, hfits⟩, hverbatim⟩

/-- Requests with plain paths that send the same have the same path. -/
theorem rest_eq_of_get_eq {r' : Request} {g : Get} (hplain : IsPlain r.rest.toList)
    (hplain' : IsPlain r'.rest.toList) (hget : n.get r = .ok g) (hget' : n.get r' = .ok g) :
  r.rest = r'.rest
  := by
  obtain ⟨v, hv, rfl, -⟩ := (get_eq_ok_iff h hscheme).mp hget
  obtain ⟨v', hv', hurl, -⟩ := (get_eq_ok_iff h hscheme).mp hget'
  obtain rfl := Option.some.inj (hv.symm.trans hv')
  have hpath := congrArg (fun g : Get => g.url.renderPath) hurl
  dsimp only at hpath
  rw [(h.endsInSlash hv).renderPath_below hplain, (h.endsInSlash hv).renderPath_below hplain']
    at hpath
  exact (String.append_right_inj _).mp hpath

/-- What is sent for a plain block id is not sent for any other operation. -/
theorem operation_eq_of_get_eq {blockId : String} {g : Get} (hplain : IsPlain blockId.toList)
    (hget : n.get (.bootstrap blockId) = .ok g) (hget' : n.get r = .ok g) :
  r.operation = .bootstrap
  := by
  have hrest := Request.isPlain_rest_bootstrap_iff.mpr hplain
  by_contra hoperation
  by_cases hupdates : r.operation = .updates
  case pos =>
    obtain ⟨v, hv, rfl, -⟩ := (get_eq_ok_iff h hscheme).mp hget
    obtain ⟨v', hv', hurl, -⟩ := (get_eq_ok_iff h hscheme).mp hget'
    have hquery := congrArg (fun g : Get => g.url.query) hurl
    dsimp only at hquery
    rw [(h.endsInSlash hv).query_below_eq_none hrest] at hquery
    cases r with
    | updates start count => exact Request.query_below_updates v' start count hquery.symm
    | spec => cases hupdates
    | bootstrap => cases hupdates
    | finalityUpdate => cases hupdates
    | optimisticUpdate => cases hupdates
  case neg =>
    exact Request.rest_bootstrap_ne hoperation hupdates (rest_eq_of_get_eq h hscheme hrest
      (Request.isPlain_rest_of_operation hoperation hupdates) hget hget')

end Base

/-- What the requests of a node for blocks are for, where the URL that it is configured with is
`u`. -/
structure NamesBlocks (n : Node) (u : WebUrl) : Prop where
  /-- A block id leads below the URL of the base and a slash, whatever it is. -/
  get_eq : ∀ blockId, n.get (.bootstrap blockId) =
    match root? n.baseUrl with
    | none => .error .badUrl
    | some v => n.send (.bootstrap blockId)
        (v.below (cleanBack ("eth/v1/beacon/light_client/bootstrap/" ++ blockId)))
  /-- A request is sent for the path with the block id as it is exactly when the URL of the base
  opens, the block id is plain, and the two are not too long together. -/
  verbatim_iff : ∀ blockId,
    (∃ g, n.get (.bootstrap blockId) = .ok g ∧ u.IsVerbatim (.bootstrap blockId) g.url) ↔
      (∃ v, root? n.baseUrl = some v ∧ u.Opens v) ∧ IsPlain blockId.toList ∧
        (u.appended (.bootstrap blockId)).utf8ByteSize ≤ longestUrl
  /-- The same is not sent for two plain block ids. -/
  injective : ∀ blockId blockId' g, IsPlain blockId.toList → IsPlain blockId'.toList →
    n.get (.bootstrap blockId) = .ok g → n.get (.bootstrap blockId') = .ok g → blockId = blockId'
  /-- What is sent for a plain block id is not sent for any other operation. -/
  operation_eq : ∀ blockId r g, IsPlain blockId.toList → n.get (.bootstrap blockId) = .ok g →
    n.get r = .ok g → r.operation = .bootstrap

/-- A node whose URL starts one of the web names blocks so. -/
theorem namesBlocks (h : IsBase n.baseUrl scheme rest)
    (hscheme : scheme = .http ∨ scheme = .https) (u : WebUrl) :
  n.NamesBlocks u
  := by
  constructor
  case get_eq => exact fun blockId => get_eq h hscheme (.bootstrap blockId)
  case verbatim_iff =>
    intro blockId
    rw [← Request.isPlain_rest_bootstrap_iff]
    exact get_isVerbatim_iff h hscheme
  case injective =>
    intro blockId blockId' g hplain hplain' hget hget'
    have hrest := rest_eq_of_get_eq h hscheme (Request.isPlain_rest_bootstrap_iff.mpr hplain)
      (Request.isPlain_rest_bootstrap_iff.mpr hplain') hget hget'
    rw [Request.rest_bootstrap, Request.rest_bootstrap] at hrest
    exact (String.append_right_inj _).mp hrest
  case operation_eq =>
    intro blockId r g hplain hget hget'
    exact operation_eq_of_get_eq h hscheme hplain hget hget'

end Node

/-! ### Backends -/

namespace BackendConfig

variable {b : BackendConfig} {u : WebUrl}

theorem isUnmarked_trimmedUrl (h : IsUnmarked b.url.toList) :
  IsUnmarked b.trimmedUrl.toList
  := by
  apply h.of_subset
  intro c hc
  rw [trimmedUrl, Node.trimSlashes, String.toList_ofList, Text.trim, String.toList_ofList] at hc
  have hc := (List.rdropWhile_prefix _ _).subset hc
  exact (List.dropWhile_suffix _).subset ((List.rdropWhile_prefix _ _).subset hc)

/-- The URL of a base opens the one that is configured exactly when its path does not end in two
slashes, as long as the latter ends in no control. -/
theorem exists_root?_opens_iff (h : parse? (Text.trim b.url) = some (.web u))
    (hmarks : IsUnmarked b.url.toList) (hends : ¬ EndsInControl (Text.trim b.url)) :
  ∃ v, root? b.trimmedUrl = some v ∧ (u.Opens v ↔ ¬ ['/', '/'] <:+ v.renderPath.toList)
  := by
  obtain ⟨slashes, hslashes, htrim⟩ := Node.exists_slashes (Text.trim b.url)
  rw [← htrim] at h hends
  obtain ⟨rest, hbase, -⟩ := exists_isBase hslashes (isUnmarked_trimmedUrl hmarks) h
  obtain ⟨v, hv, hserver, hstrip⟩ := exists_root? hslashes (isUnmarked_trimmedUrl hmarks) h hends
  refine ⟨v, hv, ?_⟩
  obtain ⟨front, hfront⟩ := (hbase.endsInSlash hv).exists_path
  have hpath : v.renderPath.toList = (front.flatMap fun s => '/' :: s.toList) ++ ['/'] := by
    rw [WebUrl.toList_renderPath, hfront, List.flatMap_append]
    rfl
  have hopens : u.Opens v ↔
      v.renderPath.toList = Text.stripEnd (· == '/') v.renderPath.toList ++ ['/'] := by
    have htrimmed : (Node.trimSlashes u.renderPath ++ "/").toList =
        Text.stripEnd (· == '/') v.renderPath.toList ++ ['/'] := by
      rw [String.toList_append, Node.trimSlashes, String.toList_ofList, hstrip]
      rfl
    rw [← htrimmed, String.toList_inj]
    exact ⟨fun h => h.path, fun h => ⟨hserver, h⟩⟩
  rw [hopens, hpath, Text.stripEnd_concat (by decide), eq_comm]
  apply Text.stripEnd_append_eq_iff (by decide)
  intro c hc
  exact eq_of_beq hc

theorem baseUrl_node (encoding : Encoding) :
  (b.node encoding).baseUrl = b.trimmedUrl
  := rfl

/-- Let the URL of a backend be valid and have neither a query nor a fragment. A request for a block
is then sent for the path of the URL, the path of the request and the block id as it is exactly when
the URL opens, the block id is plain and the whole is not too long, and plain block ids are told
apart from each other and from other operations. A URL that ends in no control opens unless its path
ends in two slashes when only one is written at its end. -/
theorem plain_ids_verbatim (b : BackendConfig) (encoding : Encoding)
    (hurl : ∃ url, Url.parse? (Text.trim b.url) = some url ∧
      (url.scheme = "http" ∨ url.scheme = "https"))
    (hmarks : IsUnmarked b.url.toList) :
  ∃ u, Url.parse? (Text.trim b.url) = some (.web u) ∧ (b.node encoding).NamesBlocks u ∧
    (¬ EndsInControl (Text.trim b.url) → ∃ v, root? b.trimmedUrl = some v ∧
      (u.Opens v ↔ ¬ ['/', '/'] <:+ v.renderPath.toList))
  := by
  obtain ⟨u, hu, hscheme⟩ := exists_web_of_scheme hurl
  refine ⟨u, hu, ?_, exists_root?_opens_iff hu hmarks⟩
  obtain ⟨slashes, hslashes, htrim⟩ := Node.exists_slashes (Text.trim b.url)
  rw [← htrim] at hu
  obtain ⟨rest, hbase, -⟩ := exists_isBase hslashes (isUnmarked_trimmedUrl hmarks) hu
  rw [← baseUrl_node encoding] at hbase
  exact Node.namesBlocks hbase hscheme u

/-- The block `head` is asked for by its name. -/
theorem plain_ids_verbatim_head :
  ∃ u, Url.parse? (Text.trim "http://127.0.0.1:5052/api/") = some (.web u) ∧
    IsUnmarked "http://127.0.0.1:5052/api/".toList ∧
    ∃ g, ((⟨"node", "http://127.0.0.1:5052/api/"⟩ : BackendConfig).node .ssz).get
        (.bootstrap "head") = .ok g ∧ u.IsVerbatim (.bootstrap "head") g.url
  := by
  have hparse : Url.parse? (Text.trim "http://127.0.0.1:5052/api/") =
      some (.web ⟨.http, .loopback, 5052, ["api", ""], none⟩) := by
    decide +kernel
  have hroot : root? (⟨"node", "http://127.0.0.1:5052/api/"⟩ : BackendConfig).trimmedUrl =
      some ⟨.http, .loopback, 5052, ["api", ""], none⟩ := by
    decide +kernel
  have hmarks : IsUnmarked "http://127.0.0.1:5052/api/".toList := by
    decide +kernel
  obtain ⟨u, hu, hnames, hopens⟩ := plain_ids_verbatim ⟨"node", "http://127.0.0.1:5052/api/"⟩ .ssz
    ⟨_, hparse, .inl rfl⟩ hmarks
  have hends : ¬ EndsInControl (Text.trim "http://127.0.0.1:5052/api/") := by
    decide +kernel
  obtain ⟨v, hv, hiff⟩ := hopens hends
  obtain rfl := Option.some.inj (hroot.symm.trans hv)
  have huv := Option.some.inj (hparse.symm.trans hu)
  obtain rfl := Url.web.inj huv
  refine ⟨_, hu, hmarks, (hnames.verbatim_iff "head").mpr ⟨⟨_, hv, hiff.mpr ?_⟩, ?_, ?_⟩⟩
  · decide +kernel
  · decide +kernel
  · decide +kernel

/-- A block id that is not plain may lead to what another operation asks for, and two of them to one
request. -/
theorem finality_update_for_block :
  ∃ u, Url.parse? (Text.trim "http://127.0.0.1:5052") = some (.web u) ∧
    IsUnmarked "http://127.0.0.1:5052".toList ∧
    let n := (⟨"node", "http://127.0.0.1:5052"⟩ : BackendConfig).node .ssz
    (∃ g, n.get (.bootstrap "../finality_update") = .ok g ∧ n.get .finalityUpdate = .ok g ∧
      ¬ u.IsVerbatim (.bootstrap "../finality_update") g.url) ∧
    (∃ g, n.get (.bootstrap "head#1") = .ok g ∧ n.get (.bootstrap "head") = .ok g)
  := by
  let u : WebUrl := ⟨.http, .loopback, 5052, [""], none⟩
  let finality : WebUrl :=
    { u with path := ["eth", "v1", "beacon", "light_client", "finality_update"] }
  let head : WebUrl :=
    { u with path := ["eth", "v1", "beacon", "light_client", "bootstrap", "head"] }
  refine ⟨u, ?_, ?_, ⟨⟨finality, .ssz⟩, ?_, ?_, ?_⟩, ⟨⟨head, .ssz⟩, ?_, ?_⟩⟩
  · decide +kernel
  · decide +kernel
  · decide +kernel
  · decide +kernel
  · exact fun h => absurd h.path (by decide +kernel)
  · decide +kernel
  · decide +kernel

end BackendConfig

end BeaconLight

import BeaconLight.Proofs.Url.Parts

/-!
# Texts behind the slash of a URL

A URL that ends in a slash may be followed by any text. A scheme and a host that are read stay as
they are, whatever the text is, and the text continues the path. `WebUrl.below` is the URL that
comes of it. A plain text is appended to the path as it is.
-/

namespace BeaconLight

open InternetAddress

/-! ### URLs behind a slash -/

namespace WebUrl

open Url

/-- The URL that a text leads to behind the slash that a URL ends in: it continues the path, and it
may have a query of its own. -/
def below (u : WebUrl) (cs : List Char) : WebUrl :=
  { u with
    path := resolve u.path.dropLast.reverse (splitBy isSlash (pathPart cs))
    query := readQuery? (queryPart cs) }

section Below

variable (u : WebUrl) (cs : List Char)

@[simp]
theorem scheme_below :
  (u.below cs).scheme = u.scheme
  := rfl

theorem query_below :
  (u.below cs).query = readQuery? (queryPart cs)
  := rfl

theorem isSegment_below (hu : ∀ s ∈ u.path, IsSegment s.toList) :
  ∀ s ∈ (u.below cs).path, IsSegment s.toList
  := by
  apply isSegment_of_mem_resolve _ _ splitBy_ne_nil
  · intro s hs
    exact hu s (List.mem_of_mem_dropLast (List.mem_reverse.mp hs))
  · intro segment hsegment c hc
    exact (of_mem_splitBy hsegment hc).2

end Below

/-- Two URLs are of one scheme and at one host and service. -/
structure SameServer (u v : WebUrl) : Prop where
  scheme_eq : u.scheme = v.scheme
  host_eq : u.host = v.host
  service_eq : u.service = v.service

theorem SameServer.authority_eq {u v : WebUrl} (h : u.SameServer v) :
  u.authority = v.authority
  := by
  rw [authority, authority, h.scheme_eq, h.host_eq, h.service_eq]

/-- A URL below another is at the same server. -/
theorem sameServer_below_iff {u v : WebUrl} {cs : List Char} :
  u.SameServer (v.below cs) ↔ u.SameServer v
  := ⟨fun ⟨hscheme, hhost, hservice⟩ => ⟨hscheme, hhost, hservice⟩,
    fun ⟨hscheme, hhost, hservice⟩ => ⟨hscheme, hhost, hservice⟩⟩

/-- A URL ends in a slash: the last segment of its path is empty and it has no query. -/
structure EndsInSlash (u : WebUrl) : Prop where
  exists_path : ∃ front, u.path = front ++ [""]
  query_eq : u.query = none

end WebUrl

/-! ### Plain texts behind a slash -/

namespace Url

variable {text slashes : List Char}

/-- A character that stands as it is in a path is no control, no space and no mark. -/
theorem of_isPathChar {c : Char} (hc : Percent.isPathChar c = true) :
  ¬ c ≤ ' ' ∧ c ≠ '?' ∧ c ≠ '#'
  := by
  rw [Percent.isPathChar, Percent.isVisible, Bool.and_eq_true, Bool.and_eq_true] at hc
  obtain ⟨⟨hlt, -⟩, hmark⟩ := hc
  refine ⟨Char.not_le.mpr (of_decide_eq_true hlt), ?_, ?_⟩
  · rintro rfl
    exact absurd hmark (by decide)
  · rintro rfl
    exact absurd hmark (by decide)

/-- What is left out of a URL are controls. -/
theorem le_space_of_isLeftOut {c : Char} (hc : isLeftOut c = true) :
  c ≤ ' '
  := by
  rw [isLeftOut, Bool.or_eq_true, Bool.or_eq_true, beq_iff_eq, beq_iff_eq, beq_iff_eq] at hc
  obtain (rfl | rfl) | rfl := hc
  · decide
  · decide
  · decide

/-- Slashes are plain. -/
theorem isPlain_of_forall_eq (hslashes : ∀ c ∈ slashes, c = '/') :
  IsPlain slashes
  := by
  apply isPlain_iff.mpr
  constructor
  · exact fun hc => absurd (hslashes _ hc) (by decide)
  · intro segment hsegment
    have hempty : segment = [] := by
      apply List.eq_nil_iff_forall_not_mem.mpr
      intro c hc
      obtain ⟨hmem, hslash⟩ := of_mem_splitBy hsegment hc
      rw [hslashes c hmem] at hslash
      exact absurd hslash (by decide)
    rw [hempty]
    exact isSegment_nil

/-- All of a plain text is read behind a slash. -/
theorem cleanBack_of_isPlain {y : String} (hy : IsPlain y.toList) :
  cleanBack y = y.toList
  := by
  have hstays : Text.stripEnd (· ≤ ' ') y.toList = y.toList := by
    apply List.rdropWhile_eq_self_iff.mpr
    intro hnonempty hlast
    have hchar := of_isPathChar (hy.isPathChar _ (List.getLast_mem hnonempty))
    exact hchar.1 (of_decide_eq_true hlast)
  rw [cleanBack, hstays, List.filter_eq_self]
  intro c hc
  have hchar := of_isPathChar (hy.isPathChar c hc)
  rw [Bool.not_eq_true', ← Bool.not_eq_true]
  exact fun hleft => hchar.1 (le_space_of_isLeftOut hleft)

theorem IsPlain.isUnmarked (htext : IsPlain text) :
  IsUnmarked text
  := by
  constructor
  · exact fun h => (of_isPathChar (htext.isPathChar _ h)).2.1 rfl
  · exact fun h => (of_isPathChar (htext.isPathChar _ h)).2.2 rfl

/-- An unmarked text is a path and no query. -/
theorem IsUnmarked.cut_eq (htext : IsUnmarked text) :
  pathPart text = text ∧ queryPart text = []
  := by
  have hcut {mark : Char} (hmark : mark ∉ text) : cut (· == mark) text = (text, []) := by
    have hne : ∀ c ∈ text, (c == mark) = false := by
      intro c hc
      rw [beq_eq_false_iff_ne]
      exact ne_of_mem_of_not_mem hc hmark
    have happend := cut_append hne []
    rw [List.append_nil] at happend
    rw [happend]
    exact congrArg (·, []) (List.append_nil text)
  rw [pathPart, queryPart, hcut htext.2, hcut htext.1]
  exact ⟨rfl, rfl⟩

end Url

namespace WebUrl

open Url

variable {v : WebUrl} {text : List Char}

theorem stripEnd_flatMap_concat (path : List String) :
  Text.stripEnd (· == '/') ((path ++ [""]).flatMap fun s => '/' :: s.toList) =
    Text.stripEnd (· == '/') (path.flatMap fun s => '/' :: s.toList)
  := by
  rw [List.flatMap_append]
  exact Text.stripEnd_concat (by decide) _

/-- A plain text is appended to the path of a URL that ends in a slash, which has no query then. -/
theorem EndsInSlash.below_of_isPlain (hv : v.EndsInSlash) (htext : IsPlain text) :
  (v.below text).query = none ∧
    (v.below text).renderPath.toList = v.renderPath.toList ++ text
  := by
  obtain ⟨hpath, hquery⟩ := htext.isUnmarked.cut_eq
  obtain ⟨front, hfront⟩ := hv.exists_path
  constructor
  · rw [below, hquery]
    rfl
  · have hbelow : (v.below text).path = front ++ (splitBy isSlash text).map String.ofList := by
      rw [below, hpath, hfront, List.dropLast_concat,
        resolve_of_forall_isSegment (isPlain_iff.mp htext).2, List.reverse_reverse]
    rw [toList_renderPath, toList_renderPath, hbelow, hfront, List.flatMap_append,
      List.flatMap_append, List.flatMap_map, List.append_assoc]
    simp only [String.toList_ofList]
    rw [flatMap_splitBy htext.not_mem_backslash]
    rfl

/-- A plain text is read behind a slash as it is. -/
theorem EndsInSlash.renderPath_below {y : String} (hv : v.EndsInSlash) (hy : IsPlain y.toList) :
  (v.below (cleanBack y)).renderPath = v.renderPath ++ y
  := by
  apply String.toList_injective
  rw [cleanBack_of_isPlain hy, (hv.below_of_isPlain hy).2, String.toList_append]

theorem EndsInSlash.query_below_eq_none {y : String} (hv : v.EndsInSlash) (hy : IsPlain y.toList) :
  (v.below (cleanBack y)).query = none
  := by
  rw [cleanBack_of_isPlain hy]
  exact (hv.below_of_isPlain hy).1

end WebUrl

/-! ### Texts behind a host -/

namespace Url

variable {scheme : WebScheme} {rest slashes text : List Char} {x : String} {u v : WebUrl}

section Append

variable (hhost : ∃ c ∈ rest, isSlash c = false) (hrest : IsUnmarked rest)

include hhost hrest

/-- A text behind the slash of a web URL is read below it. -/
theorem parseWeb?_append (cs : List Char) :
  parseWeb? scheme (rest ++ '/' :: cs) = (parseWeb? scheme (rest ++ ['/'])).map (·.below cs)
  := by
  rcases hcut : cut endsAuthority (rest.dropWhile isSlash) with ⟨authority, front⟩
  have hslash := startsWithSlash_of_cut_authority hcut hrest
  have hfront := isUnmarked_of_cut_authority hcut hrest
  rw [parseWeb?_of_cut (cut_authority_append hcut hhost cs),
    parseWeb?_of_cut (cut_authority_append hcut hhost []), Option.map_map]
  apply Option.map_congr
  rintro ⟨host, service⟩ -
  rw [Function.comp_apply, WebUrl.below, pathAndQuery_append hslash hfront,
    pathAndQuery_append hslash hfront, resolve_pathPart_nil, List.dropLast_concat,
    List.reverse_reverse]

/-- A web URL that ends in a slash has an empty segment at its end and no query. -/
theorem endsInSlash_of_parseWeb? (h : parseWeb? scheme (rest ++ ['/']) = some u) :
  u.EndsInSlash
  := by
  rcases hcut : cut endsAuthority (rest.dropWhile isSlash) with ⟨authority, front⟩
  have hslash := startsWithSlash_of_cut_authority hcut hrest
  have hfront := isUnmarked_of_cut_authority hcut hrest
  rw [parseWeb?_of_cut (cut_authority_append hcut hhost [])] at h
  obtain ⟨⟨host, service⟩, -, rfl⟩ := Option.map_eq_some_iff.mp h
  rw [pathAndQuery_append hslash hfront, resolve_pathPart_nil]
  exact ⟨⟨_, rfl⟩, rfl⟩

/-- A slash at the end of a web URL changes nothing but how many its path ends in. -/
theorem exists_of_parseWeb?_slash (h : parseWeb? scheme rest = some u) :
  ∃ v, parseWeb? scheme (rest ++ ['/']) = some v ∧ u.SameServer v ∧
    Text.stripEnd (· == '/') u.renderPath.toList = Text.stripEnd (· == '/') v.renderPath.toList
  := by
  rcases hcut : cut endsAuthority (rest.dropWhile isSlash) with ⟨authority, front⟩
  have hslash := startsWithSlash_of_cut_authority hcut hrest
  have hfront := isUnmarked_of_cut_authority hcut hrest
  rw [parseWeb?_of_cut hcut] at h
  obtain ⟨⟨host, service⟩, hread, rfl⟩ := Option.map_eq_some_iff.mp h
  rw [parseWeb?_of_cut (cut_authority_append hcut hhost []), hread]
  refine ⟨_, rfl, ⟨rfl, rfl, rfl⟩, ?_⟩
  rw [WebUrl.toList_renderPath, WebUrl.toList_renderPath]
  dsimp only
  rw [pathAndQuery_append hslash hfront, resolve_pathPart_nil, WebUrl.stripEnd_flatMap_concat,
    pathAndQuery_eq, hfront.cut_eq.1]
  obtain hsegments | hsegments := segments_eq_or hslash
  · rw [hsegments]
  · rw [hsegments, WebUrl.stripEnd_flatMap_concat]

/-- Neither do any slashes. -/
theorem exists_of_parseWeb?_slashes (hslashes : ∀ c ∈ slashes, c = '/')
    (h : parseWeb? scheme (rest ++ slashes) = some u) :
  ∃ v, parseWeb? scheme (rest ++ ['/']) = some v ∧ u.SameServer v ∧
    Text.stripEnd (· == '/') u.renderPath.toList = Text.stripEnd (· == '/') v.renderPath.toList
  := by
  cases slashes with
  | nil =>
    rw [List.append_nil] at h
    exact exists_of_parseWeb?_slash hhost hrest h
  | cons slash slashes =>
    obtain ⟨rfl, hothers⟩ := List.forall_mem_cons.mp hslashes
    rw [parseWeb?_append hhost hrest] at h
    obtain ⟨v, hv, rfl⟩ := Option.map_eq_some_iff.mp h
    have hends := endsInSlash_of_parseWeb? hhost hrest hv
    refine ⟨v, hv, ⟨rfl, rfl, rfl⟩, ?_⟩
    rw [(hends.below_of_isPlain (isPlain_of_forall_eq hothers)).2]
    apply Text.stripEnd_append_of_forall
    intro c hc
    rw [hothers c hc]
    rfl

end Append

theorem scheme_of_parseWeb? {cs : List Char} (h : parseWeb? scheme cs = some u) :
  u.scheme = scheme
  := by
  rw [parseWeb?_of_cut rfl] at h
  obtain ⟨⟨host, service⟩, -, rfl⟩ := Option.map_eq_some_iff.mp h
  rfl

theorem isSegment_of_parseWeb? {cs : List Char} (h : parseWeb? scheme cs = some u) :
  ∀ s ∈ u.path, IsSegment s.toList
  := by
  rw [parseWeb?_of_cut rfl] at h
  obtain ⟨⟨host, service⟩, -, rfl⟩ := Option.map_eq_some_iff.mp h
  exact isSegment_of_mem_segments

/-- A web URL has a host. -/
theorem exists_not_isSlash_of_parseWeb? {cs : List Char} (h : parseWeb? scheme cs = some u) :
  ∃ c ∈ cs, isSlash c = false
  := by
  by_contra hslash
  have hall : ∀ c ∈ cs, isSlash c = true := by
    intro c hc
    by_contra hne
    exact hslash ⟨c, hc, eq_false_of_ne_true hne⟩
  have hcut : cut endsAuthority (cs.dropWhile isSlash) = ([], []) := by
    rw [List.dropWhile_eq_nil_iff.mpr hall]
    rfl
  rw [parseWeb?_of_cut hcut] at h
  cases h

/-! ### Bases -/

/-- A text of a known scheme is read as a web URL. -/
theorem parse?_of_scheme? {text name : String} (hname : scheme? (clean text) = some (name, rest))
    (hscheme : WebScheme.ofName? name = some scheme) :
  parse? text = (parseWeb? scheme rest).map .web
  := by
  rw [parse?, hname]
  dsimp only [Option.bind_eq_bind, Option.bind_some]
  rw [hscheme]

/-- What is read as a web URL has the name of a known scheme, a colon, and a host and a path. -/
theorem exists_of_parse? {text : String} (h : parse? text = some (.web u)) :
  ∃ name rest, scheme? (clean text) = some (name, rest) ∧
    WebScheme.ofName? name = some u.scheme ∧ parseWeb? u.scheme rest = some u
  := by
  obtain ⟨⟨name, rest⟩, hname, hrest⟩ := Option.bind_eq_some_iff.mp h
  cases hscheme : WebScheme.ofName? name with
  | none =>
    dsimp only at hrest
    rw [hscheme] at hrest
    obtain ⟨-, hother⟩ := Option.ite_none_right_eq_some.mp hrest
    cases hother
  | some scheme =>
    rw [parse?_of_scheme? hname hscheme] at h
    obtain ⟨v, hv, hweb⟩ := Option.map_eq_some_iff.mp h
    cases hweb
    obtain rfl := scheme_of_parseWeb? hv
    exact ⟨name, rest, hname, hscheme, hv⟩

/-- A URL that is not of the web has the name of no scheme of the web. -/
theorem ofName?_of_parse? {text name behind : String}
    (h : parse? text = some (.other name behind)) :
  WebScheme.ofName? name = none
  := by
  obtain ⟨⟨read, rest⟩, hread, hrest⟩ := Option.bind_eq_some_iff.mp h
  dsimp only at hrest
  cases hscheme : WebScheme.ofName? read with
  | none =>
    rw [hscheme] at hrest
    obtain ⟨-, hother⟩ := Option.ite_none_right_eq_some.mp hrest
    cases hother
    exact hscheme
  | some scheme =>
    rw [hscheme] at hrest
    obtain ⟨v, -, hweb⟩ := Option.map_eq_some_iff.mp hrest
    cases hweb

/-- A URL of a scheme under which nodes answer is one of the web. -/
theorem exists_web_of_scheme {text : String} (h : ∃ url, parse? text = some url ∧
    (url.scheme = "http" ∨ url.scheme = "https")) :
  ∃ u, parse? text = some (.web u) ∧ (u.scheme = .http ∨ u.scheme = .https)
  := by
  obtain ⟨url, hurl, hscheme⟩ := h
  cases url with
  | web u =>
    refine ⟨u, hurl, ?_⟩
    change u.scheme.name = "http" ∨ u.scheme.name = "https" at hscheme
    revert hscheme
    cases u.scheme <;> decide
  | other name behind =>
    have hname := ofName?_of_parse? hurl
    change name = "http" ∨ name = "https" at hscheme
    obtain rfl | rfl := hscheme
    · cases hname
    · cases hname

/-- A text starts a web URL: it names a scheme, and it has at least a part of a host. What stands
behind the colon has no query and no fragment. -/
structure IsBase (x : String) (scheme : WebScheme) (rest : List Char) : Prop where
  exists_name : ∃ name, scheme? (cleanFront x) = some (name, rest) ∧
    WebScheme.ofName? name = some scheme
  exists_host : ∃ c ∈ rest, isSlash c = false
  isUnmarked : IsUnmarked rest

/-- Slashes behind a text are read as they are. -/
theorem cleanFront_append_slashes (hslashes : ∀ c ∈ slashes, c = '/') :
  cleanFront (x ++ String.ofList slashes) = cleanFront x ++ slashes
  := by
  have hstays : slashes.dropWhile (· ≤ ' ') = slashes := by
    cases slashes with
    | nil => rfl
    | cons c slashes =>
      rw [hslashes c List.mem_cons_self]
      exact List.dropWhile_cons_of_neg (by decide)
  have hkept : slashes.filter (!isLeftOut ·) = slashes := by
    rw [List.filter_eq_self]
    intro c hc
    rw [hslashes c hc]
    rfl
  rw [cleanFront, cleanFront, String.toList_append, String.toList_ofList, List.dropWhile_append,
    hstays]
  split
  case isTrue hempty => rw [List.isEmpty_iff.mp hempty, hkept, List.filter_nil, List.nil_append]
  case isFalse => rw [List.filter_append, hkept]

/-- A text ends in a control or a space. -/
def EndsInControl (text : String) : Prop :=
  ∃ c ∈ text.toList.getLast?, c ≤ ' '

instance (text : String) : Decidable (EndsInControl text) :=
  decidable_of_iff (text.toList.getLast?.any (· ≤ ' ') = true) <| by
    simp only [Option.any_eq_true, decide_eq_true_eq]
    rfl

/-- Nothing is taken off the end of a text that ends in no control. -/
theorem clean_eq_cleanFront (hx : ¬ EndsInControl x) :
  clean x = cleanFront x
  := by
  rw [cleanFront]
  apply congrArg (List.filter _)
  apply List.rdropWhile_eq_self_iff.mpr
  intro hnonempty hlast
  apply hx
  refine ⟨_, ?_, of_decide_eq_true hlast⟩
  obtain ⟨front, hfront⟩ := List.dropWhile_suffix (l := x.toList) (· ≤ ' ')
  rw [Option.mem_def, ← List.getLast?_eq_getLast_of_ne_nil hnonempty]
  conv_lhs => rw [← hfront, List.getLast?_append_of_ne_nil _ hnonempty]

/-- What is left of a web URL that is unmarked without slashes at its end starts one. The slashes
are read behind it when the URL ends in no control. -/
theorem exists_isBase (hslashes : ∀ c ∈ slashes, c = '/') (hx : IsUnmarked x.toList)
    (h : parse? (x ++ String.ofList slashes) = some (.web u)) :
  ∃ rest, IsBase x u.scheme rest ∧ (¬ EndsInControl (x ++ String.ofList slashes) →
    parseWeb? u.scheme (rest ++ slashes) = some u)
  := by
  obtain ⟨name, read, hname, hscheme, hread⟩ := exists_of_parse? h
  obtain ⟨behind, hbehind⟩ := clean_prefix (x := x ++ String.ofList slashes)
  have hfront := scheme?_append hname behind
  rw [hbehind, cleanFront_append_slashes hslashes] at hfront
  obtain ⟨rest, hrest, heq⟩ := exists_scheme?_of_append hslashes hfront
  refine ⟨rest, ⟨⟨name, hrest, hscheme⟩, ?_, ?_⟩, ?_⟩
  · obtain ⟨c, hc, hslash⟩ := exists_not_isSlash_of_parseWeb? hread
    have hmem : c ∈ rest ++ slashes := heq ▸ List.mem_append_left _ hc
    obtain hmem | hmem := List.mem_append.mp hmem
    · exact ⟨c, hmem, hslash⟩
    · rw [hslashes c hmem] at hslash
      exact absurd hslash (by decide)
  · obtain ⟨letters, -, hletters, -⟩ := scheme?_eq_some_iff.mp hrest
    apply (hx.of_subset cleanFront_subset).of_subset
    intro c hc
    rw [hletters]
    exact List.mem_append_right _ (List.mem_cons_of_mem _ hc)
  · intro hends
    rw [clean_eq_cleanFront hends] at hbehind
    rw [List.append_right_eq_self.mp hbehind, List.append_nil] at heq
    rw [← heq]
    exact hread

/-- A web URL, if it is one. -/
def web? : Url → Option WebUrl
  | .web u => some u
  | .other .. => none

/-- The URL of a text and a slash. -/
def root? (x : String) : Option WebUrl :=
  (parse? (x ++ "/")).bind web?

section Base

variable (h : IsBase x scheme rest)

include h

/-- A text behind the slash of a base is read behind its host. -/
theorem IsBase.parse?_append_eq (y : String) :
  parse? (x ++ "/" ++ y) = (parseWeb? scheme (rest ++ '/' :: cleanBack y)).map .web
  := by
  obtain ⟨name, hname, hscheme⟩ := h.exists_name
  have hfront : cleanFront x ≠ [] := by
    intro hempty
    rw [hempty] at hname
    cases hname
  apply parse?_of_scheme? _ hscheme
  rw [clean_append hfront]
  exact scheme?_append hname _

theorem IsBase.root?_eq :
  root? x = parseWeb? scheme (rest ++ ['/'])
  := by
  have hslash := h.parse?_append_eq ""
  rw [String.append_empty, cleanBack_empty] at hslash
  rw [root?, hslash]
  cases parseWeb? scheme (rest ++ ['/']) <;> rfl

/-- A text behind the slash of a base is read below the URL of the base and the slash. -/
theorem IsBase.parse?_append (y : String) :
  parse? (x ++ "/" ++ y) = (root? x).map fun v => .web (v.below (cleanBack y))
  := by
  rw [h.parse?_append_eq, h.root?_eq, parseWeb?_append h.exists_host h.isUnmarked, Option.map_map]
  rfl

theorem IsBase.endsInSlash (hv : root? x = some v) :
  v.EndsInSlash
  := by
  rw [h.root?_eq] at hv
  exact endsInSlash_of_parseWeb? h.exists_host h.isUnmarked hv

theorem IsBase.isSegment (hv : root? x = some v) :
  ∀ s ∈ v.path, IsSegment s.toList
  := by
  rw [h.root?_eq] at hv
  exact isSegment_of_parseWeb? hv

theorem IsBase.scheme_eq (hv : root? x = some v) :
  v.scheme = scheme
  := by
  rw [h.root?_eq] at hv
  exact scheme_of_parseWeb? hv

end Base

/-- The URL of what is left of a web URL without slashes at its end and of a slash differs from it
in the slashes at the end of its path alone, when the URL ends in no control. -/
theorem exists_root? (hslashes : ∀ c ∈ slashes, c = '/') (hx : IsUnmarked x.toList)
    (h : parse? (x ++ String.ofList slashes) = some (.web u))
    (hends : ¬ EndsInControl (x ++ String.ofList slashes)) :
  ∃ v, root? x = some v ∧ u.SameServer v ∧
    Text.stripEnd (· == '/') u.renderPath.toList = Text.stripEnd (· == '/') v.renderPath.toList
  := by
  obtain ⟨rest, hbase, hread⟩ := exists_isBase hslashes hx h
  rw [hbase.root?_eq]
  exact exists_of_parseWeb?_slashes hbase.exists_host hbase.isUnmarked hslashes (hread hends)

end Url

end BeaconLight

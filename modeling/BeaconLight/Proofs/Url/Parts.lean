import BeaconLight.Proofs.Text.Blank
import BeaconLight.Proofs.Url.Path

/-!
# The parts of a URL

A URL is cleaned, and then it is cut into a scheme, a host, a path and a query. Each of these cuts
is settled by what stands in front of it: it stays where it is when more is written behind a slash,
and the text that is written there is cut into a path and a query of its own.
-/

namespace BeaconLight

open InternetAddress

/-! ### The two sides of a slash -/

namespace Url

variable {x y : String}

/-- A character that is left out of a URL wherever it stands. -/
def isLeftOut (c : Char) : Bool := c == '\t' || c == '\n' || c == '\r'

/-- What is read of a text in front of a slash. -/
def cleanFront (x : String) : List Char :=
  (x.toList.dropWhile (· ≤ ' ')).filter (!isLeftOut ·)

/-- What is read of a text behind a slash. -/
def cleanBack (y : String) : List Char :=
  (Text.stripEnd (· ≤ ' ') y.toList).filter (!isLeftOut ·)

theorem cleanBack_empty :
  cleanBack "" = []
  := rfl

/-- The two sides of a slash are cleaned apart from each other. -/
theorem clean_append (hx : cleanFront x ≠ []) (y : String) :
  clean (x ++ "/" ++ y) = cleanFront x ++ '/' :: cleanBack y
  := by
  have hfront : x.toList.dropWhile (· ≤ ' ') ≠ [] := by
    intro h
    apply hx
    rw [cleanFront, h]
    rfl
  have htext : (x ++ "/" ++ y).toList = x.toList ++ '/' :: y.toList := by
    simp
  rw [clean, htext, Text.stripBoth_append_cons (by decide) hfront, List.filter_append,
    List.filter_cons_of_pos (by decide)]
  rfl

theorem cleanBack_append_question :
  cleanBack (x ++ ("?" ++ y)) = x.toList.filter (!isLeftOut ·) ++ '?' :: cleanBack y
  := by
  have htext : (x ++ ("?" ++ y)).toList = x.toList ++ '?' :: y.toList := by
    simp
  rw [cleanBack, htext, Text.stripEnd_append_cons (by decide), List.filter_append,
    List.filter_cons_of_pos (by decide)]
  rfl

/-- What is read of a text is the beginning of what is read of it in front of a slash. -/
theorem clean_prefix :
  clean x <+: cleanFront x
  := (List.rdropWhile_prefix _ _).filter _

theorem cleanFront_subset :
  cleanFront x ⊆ x.toList
  := by
  intro c hc
  exact (List.dropWhile_suffix _).subset (List.mem_of_mem_filter hc)

/-! ### Schemes -/

variable {cs behind rest slashes : List Char} {name : String}

/-- A character that may stand in the name of a scheme. -/
def isSchemeChar (c : Char) : Bool := c.isAlphanum || c == '+' || c == '-' || c == '.'

/-- The characters of a scheme, a letter first. -/
structure IsSchemeName (letters : List Char) : Prop where
  forall_mem : ∀ c ∈ letters, isSchemeChar c = true
  head : ∃ first others, letters = first :: others ∧ first.isAlpha = true

/-- A text that starts with a character is cut behind the longest name of a scheme. -/
theorem scheme?_cons {first : Char} {others : List Char} :
  scheme? (first :: others) =
    match (first :: others).dropWhile isSchemeChar with
    | ':' :: rest =>
      if first.isAlpha then
        some (String.ofList (((first :: others).takeWhile isSchemeChar).map Char.toLower), rest)
      else none
    | _ => none
  := by
  have hdrop : (first :: others).drop ((first :: others).takeWhile isSchemeChar).length =
      (first :: others).dropWhile isSchemeChar := by
    conv_lhs =>
      arg 2
      rw [← List.takeWhile_append_dropWhile (p := isSchemeChar) (l := first :: others)]
    rw [List.drop_left]
  rw [← hdrop]
  rfl

/-- A scheme is read exactly when a text is its name, a colon and the rest. -/
theorem scheme?_eq_some_iff :
  scheme? cs = some (name, rest) ↔ ∃ letters, IsSchemeName letters ∧ cs = letters ++ ':' :: rest ∧
    name = String.ofList (letters.map Char.toLower)
  := by
  constructor
  · intro h
    cases cs with
    | nil => cases h
    | cons first others =>
      rw [scheme?_cons] at h
      split at h
      case h_2 => cases h
      case h_1 rest hdrop =>
        split at h
        case isFalse => cases h
        case isTrue hfirst =>
          cases h
          have hchar : isSchemeChar first = true := by
            rw [isSchemeChar, Char.isAlphanum, hfirst]
            rfl
          refine ⟨(first :: others).takeWhile isSchemeChar, ⟨?_, ?_⟩, ?_, rfl⟩
          case refine_1 => exact fun c hc => List.mem_takeWhile_imp hc
          case refine_2 => exact ⟨first, _, List.takeWhile_cons_of_pos hchar, hfirst⟩
          case refine_3 => rw [← hdrop, List.takeWhile_append_dropWhile]
  · rintro ⟨letters, hletters, rfl, rfl⟩
    obtain ⟨first, others, rfl, hfirst⟩ := hletters.head
    have htake : (first :: others ++ ':' :: rest).takeWhile isSchemeChar = first :: others := by
      rw [List.takeWhile_append_of_pos hletters.forall_mem, List.takeWhile_cons_of_neg (by decide),
        List.append_nil]
    have hdrop : (first :: others ++ ':' :: rest).dropWhile isSchemeChar = ':' :: rest := by
      rw [List.dropWhile_append_of_pos hletters.forall_mem, List.dropWhile_cons_of_neg (by decide)]
    rw [List.cons_append] at htake hdrop ⊢
    rw [scheme?_cons, hdrop, htake]
    exact if_pos hfirst

/-- A scheme that is read stays as it is when more follows. -/
theorem scheme?_append (h : scheme? cs = some (name, rest)) (behind : List Char) :
  scheme? (cs ++ behind) = some (name, rest ++ behind)
  := by
  obtain ⟨letters, hletters, rfl, rfl⟩ := scheme?_eq_some_iff.mp h
  apply scheme?_eq_some_iff.mpr
  exact ⟨letters, hletters, List.append_assoc .., rfl⟩

/-- A scheme that is read in front of slashes is read without them. -/
theorem exists_scheme?_of_append (hslashes : ∀ c ∈ slashes, c = '/')
    (h : scheme? (cs ++ slashes) = some (name, rest)) :
  ∃ rest', scheme? cs = some (name, rest') ∧ rest = rest' ++ slashes
  := by
  obtain ⟨letters, hletters, hcs, rfl⟩ := scheme?_eq_some_iff.mp h
  have hcolon : ':' ∉ slashes := by
    intro hmem
    exact absurd (hslashes _ hmem) (by decide)
  obtain ⟨middle, rfl, hslash⟩ | ⟨middle, rfl, hrest⟩ := List.append_eq_append_iff.mp hcs
  · exact absurd (hslash ▸ List.mem_append_right _ List.mem_cons_self) hcolon
  · cases middle with
    | nil =>
      rw [List.nil_append] at hrest
      exact absurd (hrest ▸ List.mem_cons_self) hcolon
    | cons c middle =>
      obtain ⟨rfl, rfl⟩ := List.cons.inj hrest
      exact ⟨middle, scheme?_eq_some_iff.mpr ⟨letters, hletters, rfl, rfl⟩, rfl⟩

/-! ### Paths and queries -/

/-- The part of a text that is a path. -/
def pathPart (cs : List Char) : List Char :=
  (cut (· == '?') (cut (· == '#') cs).1).1

/-- The part of a text that is behind a path, up to a number sign. -/
def queryPart (cs : List Char) : List Char :=
  (cut (· == '?') (cut (· == '#') cs).1).2

/-- The query that such a part spells. -/
def readQuery? : List Char → Option String
  | _ :: query => some (String.ofList (Percent.encode Percent.isQueryChar query))
  | [] => none

theorem pathAndQuery_eq :
  pathAndQuery cs = (segments (pathPart cs), readQuery? (queryPart cs))
  := rfl

/-- The segments that the text of a path leaves in front of a further slash, last one first. -/
def stack : List Char → List String
  | [] => []
  | _ :: cs => (splitBy isSlash cs).foldl climb []

variable {front : List Char}

/-- A text has no question mark and no number sign. -/
def IsUnmarked (cs : List Char) : Prop :=
  '?' ∉ cs ∧ '#' ∉ cs

instance (cs : List Char) : Decidable (IsUnmarked cs) :=
  inferInstanceAs (Decidable ('?' ∉ cs ∧ '#' ∉ cs))

theorem IsUnmarked.of_subset (h : IsUnmarked cs) (hfront : front ⊆ cs) :
  IsUnmarked front
  := ⟨fun hc => h.1 (hfront hc), fun hc => h.2 (hfront hc)⟩

/-- The text of a path is empty or starts with a slash. -/
def StartsWithSlash (front : List Char) : Prop :=
  ∀ c ∈ front.head?, isSlash c = true

/-- What stands behind a slash continues the segments in front of it. -/
theorem segments_append (hfront : StartsWithSlash front) (cs : List Char) :
  segments (front ++ '/' :: cs) = resolve (stack front) (splitBy isSlash cs)
  := by
  cases front with
  | nil =>
    rw [List.nil_append, segments, if_pos (by decide)]
    rfl
  | cons c front =>
    rw [List.cons_append, segments, if_pos (hfront c rfl), splitBy_append_cons (by decide),
      resolve_append splitBy_ne_nil]
    rfl

/-- A path is what is in front of a further slash, or that and an empty segment. -/
theorem segments_eq_or (hfront : StartsWithSlash front) :
  segments front = (stack front).reverse ∨ segments front = (stack front).reverse ++ [""]
  := by
  cases front with
  | nil => exact .inr rfl
  | cons c front =>
    rw [segments, if_pos (hfront c rfl)]
    exact resolve_eq_or splitBy_ne_nil

/-- A list without an element that a cut is made at is in front of the cut. -/
theorem cut_append {α : Type} {test : α → Bool} {xs : List α} (h : ∀ x ∈ xs, test x = false)
    (ys : List α) :
  cut test (xs ++ ys) = (xs ++ (cut test ys).1, (cut test ys).2)
  := by
  have h : ∀ x ∈ xs, (!test x) = true := by
    intro x hx
    rw [h x hx]
    rfl
  rw [cut, List.takeWhile_append_of_pos h, List.dropWhile_append_of_pos h]
  rfl

/-- A text without a mark and another character are in front of where a text is cut at the mark. -/
theorem cut_append_cons {mark c : Char} (hmark : mark ∉ front) (hc : mark ≠ c) (cs : List Char) :
  cut (· == mark) (front ++ c :: cs) =
    (front ++ c :: (cut (· == mark) cs).1, (cut (· == mark) cs).2)
  := by
  have hfront : ∀ d ∈ front ++ [c], (d == mark) = false := by
    intro d hd
    rw [beq_eq_false_iff_ne]
    rintro rfl
    obtain hd | hd := List.mem_append.mp hd
    · exact hmark hd
    · exact hc (List.mem_singleton.mp hd)
  rw [List.append_cons, cut_append hfront, List.append_assoc]
  rfl

/-- A cut behind which an element satisfies the test is not moved by what follows it. -/
theorem cut_append_of_test {α : Type} {test : α → Bool} {x : α} (hx : test x = true)
    (xs ys : List α) :
  cut test (xs ++ x :: ys) = ((cut test xs).1, (cut test xs).2 ++ x :: ys)
  := by
  induction xs with
  | nil => simp [cut, hx]
  | cons z xs ih =>
    by_cases hz : test z = true
    case pos => simp [cut, hz]
    case neg =>
      rw [cut, Prod.mk.injEq] at ih
      simp [cut, hz, ih]

/-- What stands behind a question mark without a number sign in front is a query. -/
theorem readQuery?_queryPart_ne_none (hfront : '#' ∉ front) (cs : List Char) :
  readQuery? (queryPart (front ++ '?' :: cs)) ≠ none
  := by
  rw [queryPart, cut_append_cons hfront (by decide), cut_append_of_test (by decide)]
  obtain ⟨mark, query, hmark⟩ := List.exists_cons_of_ne_nil (List.append_ne_nil_of_right_ne_nil
    (cut (· == '?') front).2 (List.cons_ne_nil '?' (cut (· == '#') cs).1))
  rw [hmark]
  exact Option.some_ne_none _

theorem resolve_pathPart_nil {done : List String} :
  resolve done (splitBy isSlash (pathPart [])) = done.reverse ++ [""]
  := by
  apply resolve_of_forall_isSegment
  intro segment hsegment
  rw [List.mem_singleton.mp hsegment]
  exact isSegment_nil

/-- Behind an unmarked text and a slash the path and the query are those of the rest. -/
theorem pathAndQuery_append (hslash : StartsWithSlash front) (hfront : IsUnmarked front)
    (cs : List Char) :
  pathAndQuery (front ++ '/' :: cs) =
    (resolve (stack front) (splitBy isSlash (pathPart cs)), readQuery? (queryPart cs))
  := by
  rw [pathAndQuery_eq, pathPart, queryPart, cut_append_cons hfront.2 (by decide),
    cut_append_cons hfront.1 (by decide), segments_append hslash]
  rfl

/-! ### Hosts -/

/-- The host and the service that the text in front of a path spells. -/
def readAuthority? (scheme : WebScheme) (authority : List Char) : Option (Host × Nat) := do
  let (hostText, serviceText) := cutHost false (dropCredentials authority)
  let host ← Host.parse? hostText
  let service ← service? serviceText
  return (host, service.getD scheme.defaultService)

/-- The host comes from the text up to the path, and the path and the query come from the rest. -/
theorem parseWeb?_of_cut {scheme : WebScheme} {authority : List Char}
    (h : cut endsAuthority (cs.dropWhile isSlash) = (authority, rest)) :
  parseWeb? scheme cs = (readAuthority? scheme authority).map fun (host, service) =>
    ⟨scheme, host, service, (pathAndQuery rest).1, (pathAndQuery rest).2⟩
  := by
  rw [parseWeb?, h, readAuthority?]
  dsimp only
  cases Host.parse? (cutHost false (dropCredentials authority)).1 with
  | none => rfl
  | some host =>
    cases service? (cutHost false (dropCredentials authority)).2 with
    | none => rfl
    | some service => rfl

section Authority

variable {authority : List Char}
  (hcut : cut endsAuthority (rest.dropWhile isSlash) = (authority, front))

include hcut

/-- The host is cut off in one way, whatever stands behind a slash. -/
theorem cut_authority_append (hhost : ∃ c ∈ rest, isSlash c = false) (cs : List Char) :
  cut endsAuthority ((rest ++ '/' :: cs).dropWhile isSlash) = (authority, front ++ '/' :: cs)
  := by
  obtain ⟨c, hc, hslash⟩ := hhost
  have hnonempty : ¬ (rest.dropWhile isSlash).isEmpty = true := by
    rw [List.isEmpty_iff, List.dropWhile_eq_nil_iff]
    intro h
    exact Bool.false_ne_true (hslash.symm.trans (h c hc))
  rw [List.dropWhile_append, if_neg hnonempty, cut_append_of_test (by decide), hcut]

/-- What stands behind the host of an unmarked text is unmarked. -/
theorem isUnmarked_of_cut_authority (hrest : IsUnmarked rest) :
  IsUnmarked front
  := by
  apply hrest.of_subset
  rw [cut, Prod.mk.injEq] at hcut
  rw [← hcut.2]
  exact ((List.dropWhile_suffix _).trans (List.dropWhile_suffix _)).subset

/-- What stands behind the host of an unmarked text starts with a slash, if there is anything. -/
theorem startsWithSlash_of_cut_authority (hrest : IsUnmarked rest) :
  StartsWithSlash front
  := by
  intro c hc
  have hfront := isUnmarked_of_cut_authority hcut hrest
  have hmem := List.mem_of_mem_head? hc
  have hquestion : c ≠ '?' := fun h => hfront.1 (h ▸ hmem)
  have hnumber : c ≠ '#' := fun h => hfront.2 (h ▸ hmem)
  have hends := List.head?_dropWhile_not (!endsAuthority ·) (rest.dropWhile isSlash)
  rw [cut, Prod.mk.injEq] at hcut
  rw [hcut.2, Option.mem_def.mp hc] at hends
  simpa [endsAuthority, hquestion, hnumber] using hends

end Authority

end Url

end BeaconLight

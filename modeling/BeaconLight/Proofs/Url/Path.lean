import Mathlib.Data.List.Infix
import BeaconLight.Proofs.Text.Utf8
import BeaconLight.Url.Basic

/-!
# Paths of URLs

A path is resolved from the front: `climb` says what one segment makes of the segments in front of
it. What is left are segments that stand as they are, `IsSegment`: they have no slashes and no
characters that a path writes otherwise, and none of them is a dot segment. A text is plain when
its own segments are of this kind, and a plain text behind a resolved path is appended to it
unchanged.
-/

namespace BeaconLight

/-! ### Parts of a list -/

namespace InternetAddress

variable {α : Type} {test : α → Bool} {xs part : List α} {x : α}

/-- The parts of a list are those that the library splits it into. -/
theorem splitBy_eq_splitOnP :
  splitBy test xs = xs.splitOnP test
  := by
  induction xs with
  | nil => rfl
  | cons x xs ih =>
    rw [splitBy, List.splitOnP_cons_eq_if_modifyHead, ih]
    obtain ⟨part, parts, hparts⟩ := List.exists_cons_of_ne_nil (List.splitOnP_ne_nil test xs)
    rw [hparts]
    rfl

theorem splitBy_ne_nil :
  splitBy test xs ≠ []
  := by
  rw [splitBy_eq_splitOnP]
  apply List.splitOnP_ne_nil

theorem splitBy_append_cons (hx : test x = true) (ys : List α) :
  splitBy test (xs ++ x :: ys) = splitBy test xs ++ splitBy test ys
  := by
  simp only [splitBy_eq_splitOnP]
  exact List.splitOnP_append_cons xs ys hx

/-- The elements of a part are elements of the list that do not satisfy the test. -/
theorem of_mem_splitBy (hpart : part ∈ splitBy test xs) (hx : x ∈ part) :
  x ∈ xs ∧ test x = false
  := by
  rw [splitBy_eq_splitOnP] at hpart
  induction xs generalizing part with
  | nil =>
    rw [List.splitOnP_nil, List.mem_singleton] at hpart
    rw [hpart] at hx
    cases hx
  | cons y xs ih =>
    have hrest {part : List α} (hpart : part ∈ xs.splitOnP test) (hx : x ∈ part) :
      x ∈ y :: xs ∧ test x = false :=
      (ih hpart hx).imp_left (List.mem_cons_of_mem y)
    rw [List.splitOnP_cons_eq_if_modifyHead] at hpart
    split at hpart
    case isTrue hy =>
      obtain rfl | hpart := List.mem_cons.mp hpart
      · cases hx
      · exact hrest hpart hx
    case isFalse hy =>
      obtain ⟨first, parts, hparts⟩ := List.exists_cons_of_ne_nil (List.splitOnP_ne_nil test xs)
      rw [hparts, List.modifyHead_cons] at hpart
      obtain rfl | hpart := List.mem_cons.mp hpart
      · obtain rfl | hx := List.mem_cons.mp hx
        · exact ⟨List.mem_cons_self, eq_false_of_ne_true hy⟩
        · exact hrest (hparts ▸ List.mem_cons_self) hx
      · exact hrest (hparts ▸ List.mem_cons_of_mem _ hpart) hx

end InternetAddress

/-! ### Percent encoding -/

namespace Percent

variable {keep : Char → Bool} {c : Char} {cs word : List Char}

theorem encode_cons :
  encode keep (c :: cs) =
    (if keep c then [c] else (String.utf8EncodeChar c).flatMap encodeByte) ++ encode keep cs
  := List.flatMap_cons

/-- Characters that are kept are encoded as they are. -/
theorem encode_of_forall_keep (h : ∀ c ∈ cs, keep c = true) :
  encode keep cs = cs
  := by
  induction cs with
  | nil => rfl
  | cons c cs ih =>
    rw [encode_cons, if_pos (h c List.mem_cons_self),
      ih fun d hd => h d (List.mem_cons_of_mem c hd)]
    rfl

theorem isPathChar_digit {n : Nat} (hn : n < 16) :
  isPathChar (digit n) = true ∧ Url.isSlash (digit n) = false
  := by
  revert n
  decide

/-- The characters of a byte stand as they are in a path and are no slashes. -/
theorem isPathChar_of_mem_encodeByte {byte : UInt8} (hc : c ∈ encodeByte byte) :
  isPathChar c = true ∧ Url.isSlash c = false
  := by
  have hbyte := byte.toNat_lt
  rw [encodeByte, List.mem_cons, List.mem_cons, List.mem_singleton] at hc
  obtain rfl | rfl | rfl := hc
  · decide
  · exact isPathChar_digit (by omega)
  · exact isPathChar_digit (by omega)

/-- The characters of an encoded segment stand as they are in a path and are no slashes. -/
theorem isPathChar_of_mem_encode (h : ∀ c ∈ cs, Url.isSlash c = false)
    (hc : c ∈ encode isPathChar cs) :
  isPathChar c = true ∧ Url.isSlash c = false
  := by
  obtain ⟨d, hd, hc⟩ := List.mem_flatMap.mp hc
  split at hc
  case isTrue hkeep =>
    obtain rfl := List.mem_singleton.mp hc
    exact ⟨hkeep, h _ hd⟩
  case isFalse =>
    obtain ⟨byte, -, hc⟩ := List.mem_flatMap.mp hc
    exact isPathChar_of_mem_encodeByte hc

/-! ### Escapes of full stops -/

/-- Each percent sign of a word starts the escape of a full stop, in lower case. -/
def EscapesStops (word : List Char) : Prop :=
  ∀ rest ∈ word.tails, rest.head? = some '%' → rest.take 3 = "%2e".toList

instance (word : List Char) : Decidable (EscapesStops word) :=
  inferInstanceAs (Decidable (∀ rest ∈ word.tails, _ → _))

theorem EscapesStops.tail (h : EscapesStops (c :: word)) :
  EscapesStops word
  := by
  intro rest hrest
  apply h
  rw [List.mem_tails] at hrest ⊢
  exact hrest.trans (List.suffix_cons c word)

/-- Two digits that are `2E` up to letter case are those of the byte of a full stop. -/
theorem eq_stop_of_toLower_digit {byte : UInt8} (hhigh : (digit (byte.toNat / 16)).toLower = '2')
    (hlow : (digit (byte.toNat % 16)).toLower = 'e') :
  byte = 0x2e
  := by
  have hdigit : ∀ n < 16,
      ((digit n).toLower = '2' → n = 2) ∧ ((digit n).toLower = 'e' → n = 14) := by
    decide
  have hbyte := byte.toNat_lt
  have h2 : byte.toNat / 16 = 2 := (hdigit _ (by omega)).1 hhigh
  have h14 : byte.toNat % 16 = 14 := (hdigit _ (by omega)).2 hlow
  apply UInt8.toNat_inj.mp
  change byte.toNat = 46
  omega

/-- The bytes of a character start with that of a full stop only when it is one. -/
theorem eq_stop_of_utf8EncodeChar {bytes : List UInt8}
    (h : String.utf8EncodeChar c = 0x2e :: bytes) :
  c = '.'
  := by
  have hlt : c.toNat < 128 := by
    by_contra hge
    have hle := Utf8.le_of_mem_utf8EncodeChar (Nat.le_of_not_lt hge) (h ▸ List.mem_cons_self)
    exact absurd hle (by decide)
  rw [Utf8.utf8EncodeChar_of_lt hlt, List.cons.injEq] at h
  have hnat := congrArg UInt8.toNat h.1
  rw [UInt8.toNat_ofNat', Nat.mod_eq_of_lt (by omega)] at hnat
  apply Char.toNat_inj.mp
  exact hnat

/-- A text that is encoded, up to letter case, as a word that has no escapes but those of full
stops has no character that is not kept. -/
theorem forall_keep_of_toLower_encode (hstop : keep '.' = true) (hword : EscapesStops word)
    (h : (encode keep cs).map Char.toLower = word) :
  ∀ c ∈ cs, keep c = true
  := by
  induction cs generalizing word with
  | nil => exact List.forall_mem_nil _
  | cons c cs ih =>
    rw [encode_cons] at h
    by_cases hkeep : keep c = true
    case pos =>
      rw [if_pos hkeep] at h
      subst h
      exact List.forall_mem_cons.mpr ⟨hkeep, ih hword.tail rfl⟩
    case neg =>
      rw [if_neg hkeep] at h
      obtain ⟨byte, bytes, hbytes⟩ :=
        List.exists_cons_of_ne_nil (String.utf8EncodeChar_ne_nil (c := c))
      rw [hbytes, List.flatMap_cons, encodeByte] at h
      subst h
      have hescape := hword _ ((List.mem_tails _ _).mpr List.suffix_rfl) rfl
      have hdigits : (digit (byte.toNat / 16)).toLower = '2' ∧
          (digit (byte.toNat % 16)).toLower = 'e' := by
        simpa using hescape
      rw [eq_stop_of_toLower_digit hdigits.1 hdigits.2] at hbytes
      rw [eq_stop_of_utf8EncodeChar hbytes] at hkeep
      exact absurd hstop hkeep

end Percent

/-! ### Segments -/

namespace Url

open InternetAddress Percent

variable {segment : List Char} {segments rest : List (List Char)} {done : List String}

/-- A segment that stands in a resolved path as it is. -/
structure IsSegment (segment : List Char) : Prop where
  isPathChar : ∀ c ∈ segment, Percent.isPathChar c = true
  not_isSlash : ∀ c ∈ segment, isSlash c = false
  not_isDot : isDot segment = false
  not_isDoubleDot : isDoubleDot segment = false

theorem isSegment_nil :
  IsSegment []
  := ⟨List.forall_mem_nil _, List.forall_mem_nil _, rfl, rfl⟩

theorem IsSegment.encodeSegment (h : IsSegment segment) :
  resolve.encodeSegment segment = String.ofList segment
  := congrArg String.ofList (encode_of_forall_keep h.isPathChar)

/-- A segment that is encoded as a dot segment is one. -/
theorem eq_of_toLower_encode {words : List (List Char)} (hwords : ∀ word ∈ words, EscapesStops word)
    (h : (encode isPathChar segment).map Char.toLower ∈ words) :
  segment.map Char.toLower ∈ words
  := by
  have hkeep := forall_keep_of_toLower_encode (by decide) (hwords _ h) rfl
  rw [encode_of_forall_keep hkeep] at h
  exact h

/-- A segment that is no dot segment and has no slashes is encoded as one that stands as it is. -/
theorem isSegment_encodeSegment (hslash : ∀ c ∈ segment, isSlash c = false)
    (hdot : isDot segment = false) (hdouble : isDoubleDot segment = false) :
  IsSegment (resolve.encodeSegment segment).toList
  := by
  rw [resolve.encodeSegment, String.toList_ofList]
  constructor
  case isPathChar => exact fun c hc => (isPathChar_of_mem_encode hslash hc).1
  case not_isSlash => exact fun c hc => (isPathChar_of_mem_encode hslash hc).2
  case not_isDot =>
    apply decide_eq_false
    intro h
    exact of_decide_eq_false hdot (eq_of_toLower_encode (by decide) h)
  case not_isDoubleDot =>
    apply decide_eq_false
    intro h
    exact of_decide_eq_false hdouble (eq_of_toLower_encode (by decide) h)

/-! ### Resolving -/

/-- What a segment with others behind it makes of the segments in front of it, last one first. -/
def climb (done : List String) (segment : List Char) : List String :=
  if isDoubleDot segment then done.tail
  else if isDot segment then done
  else resolve.encodeSegment segment :: done

/-- A path is resolved from its first segment on. -/
theorem resolve_cons (hrest : rest ≠ []) :
  resolve done (segment :: rest) = resolve (climb done segment) rest
  := by
  obtain ⟨next, others, rfl⟩ := List.exists_cons_of_ne_nil hrest
  rw [resolve, climb]
  · split
    · rfl
    · split <;> rfl
  · exact List.cons_ne_nil _ _

/-- A path is resolved from the front, a segment after another. -/
theorem resolve_append (hrest : rest ≠ []) :
  resolve done (segments ++ rest) = resolve (segments.foldl climb done) rest
  := by
  induction segments generalizing done with
  | nil => rfl
  | cons segment segments ih =>
    rw [List.cons_append, resolve_cons (List.append_ne_nil_of_right_ne_nil _ hrest), ih]
    rfl

/-- Segments that stand as they are follow the ones in front of them. -/
theorem resolve_of_forall_isSegment (h : ∀ segment ∈ segments, IsSegment segment) :
  resolve done segments = done.reverse ++ segments.map String.ofList
  := by
  induction segments generalizing done with
  | nil => rw [resolve, List.map_nil, List.append_nil]
  | cons segment segments ih =>
    obtain ⟨hsegment, hsegments⟩ := List.forall_mem_cons.mp h
    have hdouble : ¬ isDoubleDot segment = true := by
      rw [hsegment.not_isDoubleDot]
      exact Bool.false_ne_true
    have hdot : ¬ isDot segment = true := by
      rw [hsegment.not_isDot]
      exact Bool.false_ne_true
    cases segments with
    | nil =>
      rw [resolve, if_neg hdouble, if_neg hdot, hsegment.encodeSegment, List.reverse_cons]
      rfl
    | cons next others =>
      rw [resolve_cons (List.cons_ne_nil _ _), ih hsegments, climb, if_neg hdouble, if_neg hdot,
        hsegment.encodeSegment, List.reverse_cons, List.append_assoc]
      rfl

/-- The last segment of a path does what it does in front of others, or leaves an empty segment
besides. -/
theorem resolve_singleton :
  resolve done [segment] = (climb done segment).reverse ∨
    resolve done [segment] = (climb done segment).reverse ++ [""]
  := by
  rw [resolve, climb]
  split
  case isTrue => exact .inr List.reverse_cons
  case isFalse =>
    split
    case isTrue => exact .inr List.reverse_cons
    case isFalse => exact .inl rfl

theorem resolve_eq_or (hsegments : segments ≠ []) :
  resolve done segments = (segments.foldl climb done).reverse ∨
    resolve done segments = (segments.foldl climb done).reverse ++ [""]
  := by
  obtain ⟨front, last, rfl⟩ := (List.eq_nil_or_concat segments).resolve_left hsegments
  rw [List.concat_eq_append, resolve_append (List.cons_ne_nil _ _), List.foldl_append]
  exact resolve_singleton

/-- A further segment without slashes keeps up that the segments stand as they are. -/
theorem isSegment_of_mem_climb (hdone : ∀ s ∈ done, IsSegment s.toList)
    (hslash : ∀ c ∈ segment, isSlash c = false) :
  ∀ s ∈ climb done segment, IsSegment s.toList
  := by
  intro s hs
  rw [climb] at hs
  split at hs
  case isTrue => exact hdone s (List.mem_of_mem_tail hs)
  case isFalse hdouble =>
    split at hs
    case isTrue => exact hdone s hs
    case isFalse hdot =>
      obtain rfl | hs := List.mem_cons.mp hs
      · exact isSegment_encodeSegment hslash (eq_false_of_ne_true hdot)
          (eq_false_of_ne_true hdouble)
      · exact hdone s hs

/-- Further segments without slashes keep it up as well. -/
theorem isSegment_of_mem_foldl_climb (hdone : ∀ s ∈ done, IsSegment s.toList)
    (hslash : ∀ segment ∈ segments, ∀ c ∈ segment, isSlash c = false) :
  ∀ s ∈ segments.foldl climb done, IsSegment s.toList
  := by
  induction segments generalizing done with
  | nil => exact hdone
  | cons segment segments ih =>
    obtain ⟨hsegment, hsegments⟩ := List.forall_mem_cons.mp hslash
    exact ih (isSegment_of_mem_climb hdone hsegment) hsegments

/-- The segments that are left when a path is resolved stand as they are. -/
theorem isSegment_of_mem_resolve (hdone : ∀ s ∈ done, IsSegment s.toList)
    (hslash : ∀ segment ∈ segments, ∀ c ∈ segment, isSlash c = false)
    (hsegments : segments ≠ []) :
  ∀ s ∈ resolve done segments, IsSegment s.toList
  := by
  have hclimb := isSegment_of_mem_foldl_climb hdone hslash
  intro s hs
  obtain h | h : resolve done segments = _ ∨ resolve done segments = _ := resolve_eq_or hsegments
  · rw [h, List.mem_reverse] at hs
    exact hclimb s hs
  · rw [h, List.mem_append, List.mem_reverse, List.mem_singleton] at hs
    obtain hs | rfl := hs
    · exact hclimb s hs
    · exact isSegment_nil

/-- The path of a URL has segments that stand as they are. -/
theorem isSegment_of_mem_segments {cs : List Char} :
  ∀ s ∈ Url.segments cs, IsSegment s.toList
  := by
  cases cs with
  | nil =>
    intro s hs
    rw [List.mem_singleton.mp hs]
    exact isSegment_nil
  | cons c cs =>
    apply isSegment_of_mem_resolve (List.forall_mem_nil _) _ splitBy_ne_nil
    intro segment hsegment c hc
    exact (of_mem_splitBy hsegment hc).2

/-! ### Plain texts -/

/-- A text is plain when each of its characters stands as it is in a path, none of them is a
backslash, and none of its segments is a dot segment. -/
structure IsPlain (text : List Char) : Prop where
  isPathChar : ∀ c ∈ text, Percent.isPathChar c = true
  not_mem_backslash : '\\' ∉ text
  not_isDot : ∀ segment ∈ splitBy isSlash text, isDot segment = false
  not_isDoubleDot : ∀ segment ∈ splitBy isSlash text, isDoubleDot segment = false

instance (text : List Char) : Decidable (IsPlain text) :=
  decidable_of_iff (text.all Percent.isPathChar = true ∧ '\\' ∉ text ∧
      (splitBy isSlash text).all (!isDot ·) = true ∧
      (splitBy isSlash text).all (!isDoubleDot ·) = true) <| by
    simp only [List.all_eq_true, Bool.not_eq_true']
    exact ⟨fun ⟨hchar, hbackslash, hdot, hdouble⟩ => ⟨hchar, hbackslash, hdot, hdouble⟩,
      fun ⟨hchar, hbackslash, hdot, hdouble⟩ => ⟨hchar, hbackslash, hdot, hdouble⟩⟩

variable {text front : List Char}

/-- The segments of a text without backslashes make up the text again. -/
theorem flatMap_splitBy (h : '\\' ∉ text) :
  (splitBy isSlash text).flatMap ('/' :: ·) = '/' :: text
  := by
  induction text with
  | nil => rfl
  | cons c text ih =>
    have ih := ih (List.not_mem_of_not_mem_cons h)
    rw [splitBy_eq_splitOnP] at ih ⊢
    rw [List.splitOnP_cons_eq_if_modifyHead]
    split
    case isTrue hslash =>
      obtain rfl : c = '/' := by
        have hc := (List.ne_of_not_mem_cons h).symm
        simpa [isSlash, hc] using hslash
      rw [List.flatMap_cons, ih]
      rfl
    case isFalse =>
      obtain ⟨first, others, hparts⟩ :=
        List.exists_cons_of_ne_nil (List.splitOnP_ne_nil isSlash text)
      rw [hparts, List.flatMap_cons, List.cons_append, List.cons.injEq] at ih
      rw [hparts, List.modifyHead_cons, List.flatMap_cons, List.cons_append, List.cons_append, ih.2]

/-- A text without backslashes is plain exactly when its segments stand as they are. -/
theorem isPlain_iff :
  IsPlain text ↔ '\\' ∉ text ∧ ∀ segment ∈ splitBy isSlash text, IsSegment segment
  := by
  constructor
  · intro h
    refine ⟨h.not_mem_backslash, ?_⟩
    intro segment hsegment
    constructor
    case isPathChar => exact fun c hc => h.isPathChar c (of_mem_splitBy hsegment hc).1
    case not_isSlash => exact fun c hc => (of_mem_splitBy hsegment hc).2
    case not_isDot => exact h.not_isDot segment hsegment
    case not_isDoubleDot => exact h.not_isDoubleDot segment hsegment
  · rintro ⟨hbackslash, hsegment⟩
    constructor
    case isPathChar =>
      intro c hc
      have hmem : c ∈ (splitBy isSlash text).flatMap ('/' :: ·) := by
        rw [flatMap_splitBy hbackslash]
        exact List.mem_cons_of_mem _ hc
      obtain ⟨segment, hmem, hc⟩ := List.mem_flatMap.mp hmem
      obtain rfl | hc := List.mem_cons.mp hc
      · decide
      · exact (hsegment segment hmem).isPathChar c hc
    case not_mem_backslash => exact hbackslash
    case not_isDot => exact fun segment h => (hsegment segment h).not_isDot
    case not_isDoubleDot => exact fun segment h => (hsegment segment h).not_isDoubleDot

/-- A text with a slash is plain exactly when it is on both sides of the slash. -/
theorem isPlain_append_slash_iff :
  IsPlain (front ++ '/' :: text) ↔ IsPlain front ∧ IsPlain text
  := by
  have hbackslash : '\\' ∉ front ++ '/' :: text ↔ '\\' ∉ front ∧ '\\' ∉ text := by
    simp
  rw [isPlain_iff, isPlain_iff, isPlain_iff, hbackslash, splitBy_append_cons (by decide),
    List.forall_mem_append, and_and_and_comm]

/-- A root and a path of names are plain, and neither dot segments, escaped or not, nor marks
are. -/
example :
  IsPlain "0xab12".toList ∧ IsPlain "eth/v1//head".toList ∧
  ¬ IsPlain "../head".toList ∧ ¬ IsPlain "a/%2E".toList ∧ ¬ IsPlain "head#1".toList
  := by decide +kernel

end Url

/-! ### The text of a path -/

namespace WebUrl

open InternetAddress Url

variable {path : List String} {text front : List Char}

theorem toList_renderPath (u : WebUrl) :
  u.renderPath.toList = u.path.flatMap fun s => '/' :: s.toList
  := by
  rw [renderPath, String.toList_join, List.flatMap_map]
  apply List.flatMap_congr
  intro s _
  exact String.toList_append

/-- Segments without slashes are found again in the text of them. -/
theorem splitBy_append_flatMap {first : List Char} (hfirst : ∀ c ∈ first, isSlash c = false)
    (h : ∀ s ∈ path, IsSegment s.toList) :
  splitBy isSlash (first ++ path.flatMap fun s => '/' :: s.toList) =
    first :: path.map String.toList
  := by
  rw [splitBy_eq_splitOnP]
  induction path generalizing first with
  | nil =>
    rw [List.flatMap_nil, List.append_nil]
    exact List.splitOnP_eq_singleton hfirst
  | cons s path ih =>
    obtain ⟨hs, hpath⟩ := List.forall_mem_cons.mp h
    rw [List.flatMap_cons, List.cons_append,
      List.splitOnP_append_cons_of_forall_mem hfirst _ (by decide), ih hs.not_isSlash hpath]
    rfl

/-- What follows a slash in the text of a path of segments that stand as they are is plain. -/
theorem isPlain_of_toList_renderPath {u : WebUrl} (hpath : ∀ s ∈ u.path, IsSegment s.toList)
    (h : u.renderPath.toList = front ++ '/' :: text) :
  IsPlain text
  := by
  rw [toList_renderPath] at h
  apply isPlain_iff.mpr
  constructor
  · intro hc
    have hmem := List.mem_append_right front (List.mem_cons_of_mem '/' hc)
    rw [← h] at hmem
    obtain ⟨s, hs, hmem⟩ := List.mem_flatMap.mp hmem
    obtain hmem | hmem := List.mem_cons.mp hmem
    · exact absurd hmem (by decide)
    · exact absurd ((hpath s hs).not_isSlash _ hmem) (by decide)
  · intro segment hsegment
    have hmem : segment ∈ splitBy isSlash (front ++ '/' :: text) := by
      rw [splitBy_append_cons (by decide)]
      exact List.mem_append_right _ hsegment
    rw [← h, ← List.nil_append (u.path.flatMap _),
      splitBy_append_flatMap (List.forall_mem_nil _) hpath] at hmem
    obtain rfl | hmem := List.mem_cons.mp hmem
    · exact isSegment_nil
    · obtain ⟨s, hs, rfl⟩ := List.mem_map.mp hmem
      exact hpath s hs

end WebUrl

end BeaconLight

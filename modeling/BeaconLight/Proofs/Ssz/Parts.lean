import BeaconLight.Proofs.Bytes
import BeaconLight.Proofs.Except
import BeaconLight.Ssz.Parts
import Mathlib.Data.List.Forall2

/-!
# Reading the layout of a record

`Ssz.split` accepts exactly the layouts that `Ssz.assemble` writes. Both directions go by the
heads in front of the variable parts: `readHeads_eq_ok_iff` says which heads are read from an
input, `headsOf` lists the heads that parts are written with, and `slices` takes the ones to
the others.
-/

namespace BeaconLight.Ssz

/-! ### Reading heads -/

/-- The bytes that a head takes up. -/
def Head.bytes : Head → List UInt8
  | .inline bytes => bytes
  | .offset value => littleEndian offsetSize value

/-- A head stands for a part of the given size, and an offset fits into its bytes. -/
def Head.Fits : Head → Option Nat → Prop
  | .inline bytes, some size => bytes.length = size
  | .offset value, none => value < 256 ^ offsetSize
  | .inline _, none | .offset _, some _ => False

/-- The offsets among heads are at least `previous`, do not decrease, and point into an input
of `length` bytes. -/
def Ascending (length : Nat) : (previous : Nat) → List Head → Prop
  | _, [] => True
  | previous, .inline _ :: rest => Ascending length previous rest
  | previous, .offset value :: rest =>
    previous ≤ value ∧ value ≤ length ∧ Ascending length value rest

/-- A list begins with two others one after the other exactly when it begins with the first
and what follows that begins with the second. -/
private theorem append_prefix_iff {xs ys zs : List UInt8} :
  xs ++ ys <+: zs ↔ xs = zs.take xs.length ∧ ys <+: zs.drop xs.length
  := by
  constructor
  · rintro ⟨rest, rfl⟩
    simp
  · rintro ⟨htake, rest, hdrop⟩
    use rest
    rw [List.append_assoc, hdrop]
    nth_rewrite 1 [htake]
    apply List.take_append_drop

section ReadHeads

variable {length : Nat} {rest : List (Option Nat)} {left : List UInt8} {cursor : Nat}
  {previous : Option Nat} {hs : List Head} {last : Nat}

/-- A part of fixed size is read as its bytes. -/
theorem readHeads_some_eq_ok_iff {size : Nat} :
  readHeads length (some size :: rest) left cursor previous = .ok (hs, last)
    ↔ cursor + size ≤ length ∧ ∃ others, hs = .inline (left.take size) :: others
      ∧ readHeads length rest (left.drop size) (cursor + size) previous = .ok (others, last)
  := by
  rw [readHeads]
  split
  case isTrue h =>
    constructor
    · rintro ⟨⟩
    · rintro ⟨hle, -⟩
      omega
  case isFalse h =>
    rw [Except.bind_eq_ok_iff]
    constructor
    · rintro ⟨⟨others, _⟩, hread, ⟨⟩⟩
      exact ⟨by omega, others, rfl, hread⟩
    · rintro ⟨-, others, rfl, hread⟩
      exact ⟨(others, last), hread, rfl⟩

/-- A part of variable size is read as its offset, which has to point into the input and not
in front of the previous offset. -/
theorem readHeads_none_eq_ok_iff :
  readHeads length (none :: rest) left cursor previous = .ok (hs, last)
    ↔ cursor + offsetSize ≤ length
      ∧ previous.getD 0 ≤ ofLittleEndian (left.take offsetSize)
      ∧ ofLittleEndian (left.take offsetSize) ≤ length
      ∧ ∃ others, hs = .offset (ofLittleEndian (left.take offsetSize)) :: others
        ∧ readHeads length rest (left.drop offsetSize) (cursor + offsetSize)
            (some (ofLittleEndian (left.take offsetSize))) = .ok (others, last)
  := by
  rw [readHeads]
  dsimp only
  split
  case isTrue h =>
    constructor
    · rintro ⟨⟩
    · rintro ⟨hle, -⟩
      omega
  case isFalse h =>
    split
    case isTrue h' =>
      constructor
      · rintro ⟨⟩
      · rintro ⟨-, -, hle, -⟩
        omega
    case isFalse h' =>
      split
      case isTrue h'' =>
        constructor
        · rintro ⟨⟩
        · rintro ⟨-, hle, -⟩
          omega
      case isFalse h'' =>
        rw [Except.bind_eq_ok_iff]
        constructor
        · rintro ⟨⟨others, _⟩, hread, ⟨⟩⟩
          exact ⟨by omega, by omega, by omega, others, rfl, hread⟩
        · rintro ⟨-, -, -, others, rfl, hread⟩
          exact ⟨(others, last), hread, rfl⟩

/-- Heads are read exactly when the input begins with their bytes, each stands for a part of
its size, and the offsets are in order. -/
theorem readHeads_eq_ok_iff {sizes : List (Option Nat)} (hleft : cursor + left.length = length) :
  readHeads length sizes left cursor previous = .ok (hs, last)
    ↔ List.Forall₂ Head.Fits hs sizes ∧ hs.flatMap Head.bytes <+: left
      ∧ Ascending length (previous.getD 0) hs ∧ last = cursor + (hs.flatMap Head.bytes).length
  := by
  induction sizes generalizing left cursor previous hs last with
  | nil =>
    simp only [readHeads, Except.ok.injEq, Prod.mk.injEq, List.forall₂_nil_right_iff]
    constructor
    · rintro ⟨rfl, rfl⟩
      simp [Ascending]
    · rintro ⟨rfl, -, -, rfl⟩
      simp
  | cons size rest ih =>
    rw [List.forall₂_cons_right_iff]
    cases size with
    | some size =>
      rw [readHeads_some_eq_ok_iff]
      constructor
      · rintro ⟨hle, others, rfl, hread⟩
        have hsize : (left.take size).length = size := by
          rw [List.length_take]
          omega
        obtain ⟨hfits, hbegins, hascending, rfl⟩ := (ih (by rw [List.length_drop]; omega)).mp hread
        rw [List.flatMap_cons, Head.bytes, append_prefix_iff, List.length_append, hsize]
        exact ⟨⟨.inline _, others, hsize, hfits, rfl⟩, ⟨rfl, hbegins⟩, hascending, by omega⟩
      · rintro ⟨⟨head, others, hfit, hfits, rfl⟩, hbegins, hascending, rfl⟩
        cases head with
        | offset value => cases hfit
        | inline bytes =>
          obtain rfl : bytes.length = size := hfit
          rw [List.flatMap_cons, Head.bytes, append_prefix_iff] at hbegins
          have hle : bytes.length ≤ left.length := by
            rw [hbegins.1, List.length_take]
            apply Nat.min_le_right
          refine ⟨by omega, others, by rw [← hbegins.1], ?_⟩
          rw [ih (by rw [List.length_drop]; omega), List.flatMap_cons, Head.bytes,
            List.length_append]
          exact ⟨hfits, hbegins.2, hascending, by omega⟩
    | none =>
      rw [readHeads_none_eq_ok_iff]
      constructor
      · rintro ⟨hle, hprevious, hlength, others, rfl, hread⟩
        have hsize : (left.take offsetSize).length = offsetSize := by
          rw [List.length_take]
          omega
        have hbound := ofLittleEndian_lt (left.take offsetSize)
        have hbytes := littleEndian_ofLittleEndian (left.take offsetSize)
        rw [hsize] at hbound hbytes
        obtain ⟨hfits, hbegins, hascending, rfl⟩ := (ih (by rw [List.length_drop]; omega)).mp hread
        rw [List.flatMap_cons, Head.bytes, append_prefix_iff, List.length_append,
          length_littleEndian]
        exact ⟨⟨.offset _, others, hbound, hfits, rfl⟩, ⟨hbytes, hbegins⟩,
          ⟨hprevious, hlength, hascending⟩, by omega⟩
      · rintro ⟨⟨head, others, hfit, hfits, rfl⟩, hbegins, hascending, rfl⟩
        cases head with
        | inline bytes => cases hfit
        | offset value =>
          rw [List.flatMap_cons, Head.bytes, append_prefix_iff, length_littleEndian] at hbegins
          obtain ⟨hprevious, hlength, hascending⟩ := hascending
          have hvalue : ofLittleEndian (left.take offsetSize) = value := by
            rw [← hbegins.1]
            apply ofLittleEndian_littleEndian hfit
          have hle : offsetSize ≤ left.length := by
            have := congrArg List.length hbegins.1
            rw [List.length_take, length_littleEndian] at this
            omega
          rw [hvalue]
          refine ⟨by omega, hprevious, hlength, others, rfl, ?_⟩
          rw [ih (by rw [List.length_drop]; omega), List.flatMap_cons, Head.bytes,
            List.length_append, length_littleEndian]
          exact ⟨hfits, hbegins.2, hascending, by omega⟩

end ReadHeads

/-! ### Writing heads -/

/-- A part is of the given size. -/
def Part.Fits (p : Part) (size : Option Nat) : Prop :=
  p.fixed = size.isSome ∧ ∀ n ∈ size, p.bytes.length = n

/-- The heads that parts are written with when the first variable one begins at `offset`. -/
def headsOf : (offset : Nat) → List Part → List Head
  | _, [] => []
  | offset, p :: rest =>
    if p.fixed then .inline p.bytes :: headsOf offset rest
    else .offset offset :: headsOf (offset + p.bytes.length) rest

/-- The bytes in front of the variable parts are those of the heads. -/
theorem flatMap_headsOf (offset : Nat) (parts : List Part) :
  (headsOf offset parts).flatMap Head.bytes = heads offset parts
  := by
  induction parts generalizing offset with
  | nil => rfl
  | cons p rest ih =>
    rw [headsOf, heads]
    split
    · rw [List.flatMap_cons, ih, Head.bytes]
    · rw [List.flatMap_cons, ih, Head.bytes]

@[simp]
theorem length_heads (offset : Nat) (parts : List Part) :
  (heads offset parts).length = headsSize parts
  := by
  induction parts generalizing offset with
  | nil => rfl
  | cons p rest ih =>
    rw [heads, headsSize, Part.headSize]
    split
    · rw [List.length_append, ih]
    · rw [List.length_append, ih, length_littleEndian]

/-- The bytes of a record are those in front of its variable parts and those of its variable
parts. -/
theorem length_assemble (parts : List Part) :
  (assemble parts).length = headsSize parts + (tails parts).length
  := by
  rw [assemble, List.length_append, length_heads]

theorem tails_eq_nil {parts : List Part} (h : parts.all Part.fixed = true) :
  tails parts = []
  := by
  induction parts with
  | nil => rfl
  | cons p rest ih =>
    rw [List.all_cons, Bool.and_eq_true] at h
    rw [tails, if_pos h.1, ih h.2]

/-- The first offset is the one that the variable parts begin at, unless there are none. -/
theorem firstOffset_headsOf (offset : Nat) (parts : List Part) :
  firstOffset (headsOf offset parts) = if parts.all Part.fixed then none else some offset
  := by
  induction parts with
  | nil => rfl
  | cons p rest ih =>
    rw [headsOf, List.all_cons]
    cases hp : p.fixed with
    | true => simpa [firstOffset] using ih
    | false => rfl

/-- Sizes have a total exactly when all parts are of fixed size. -/
theorem totalSize?_of_fits {parts : List Part} {sizes : List (Option Nat)}
    (h : List.Forall₂ Part.Fits parts sizes) :
  totalSize? sizes = if parts.all Part.fixed then some (headsSize parts) else none
  := by
  induction h with
  | nil => rfl
  | @cons p size rest sizes hp _ ih =>
    obtain ⟨hfixed, hsize⟩ := hp
    cases size with
    | none => simp [totalSize?, hfixed]
    | some n =>
      rw [totalSize?, ih, List.all_cons, headsSize, Part.headSize, hfixed, hsize n rfl]
      split <;> simp_all

/-- The heads of parts fit their sizes when the end of the record fits an offset. -/
theorem fits_headsOf {parts : List Part} {sizes : List (Option Nat)} {offset : Nat}
    (h : List.Forall₂ Part.Fits parts sizes)
    (hbound : offset + (tails parts).length < 256 ^ offsetSize) :
  List.Forall₂ Head.Fits (headsOf offset parts) sizes
  := by
  induction h generalizing offset with
  | nil => apply List.Forall₂.nil
  | @cons p size rest sizes hp _ ih =>
    obtain ⟨hfixed, hsize⟩ := hp
    rw [tails] at hbound
    rw [headsOf]
    cases size with
    | some n =>
      rw [Option.isSome_some] at hfixed
      rw [if_pos hfixed] at hbound ⊢
      apply List.Forall₂.cons
      · show p.bytes.length = n
        apply hsize n rfl
      · apply ih hbound
    | none =>
      rw [Option.isSome_none] at hfixed
      rw [hfixed] at hbound ⊢
      rw [if_neg Bool.false_ne_true, List.length_append] at hbound
      rw [if_neg Bool.false_ne_true]
      apply List.Forall₂.cons
      · show offset < 256 ^ offsetSize
        omega
      · apply ih
        omega

/-- The offsets of parts are in order. -/
theorem ascending_headsOf {length previous offset : Nat} {parts : List Part}
    (hprevious : previous ≤ offset) (hlength : offset + (tails parts).length ≤ length) :
  Ascending length previous (headsOf offset parts)
  := by
  induction parts generalizing previous offset with
  | nil => trivial
  | cons p rest ih =>
    rw [tails] at hlength
    rw [headsOf]
    split
    case isTrue h =>
      rw [if_pos h] at hlength
      apply ih hprevious hlength
    case isFalse h =>
      rw [if_neg h, List.length_append] at hlength
      refine ⟨hprevious, by omega, ?_⟩
      apply ih
      · omega
      · omega

/-- The slices that the offsets of parts cut out are the parts. -/
theorem slices_headsOf {input : List UInt8} {offset : Nat} {parts : List Part}
    (h : input.drop offset = tails parts) :
  slices input (headsOf offset parts) = parts.map Part.bytes
  := by
  induction parts generalizing offset with
  | nil => rfl
  | cons p rest ih =>
    rw [tails] at h
    rw [headsOf, List.map_cons]
    split
    case isTrue hp =>
      rw [if_pos hp] at h
      rw [slices, ih h]
    case isFalse hp =>
      rw [if_neg hp] at h
      have hrest : input.drop (offset + p.bytes.length) = tails rest := by
        rw [← List.drop_drop, h, List.drop_left]
      rw [slices, firstOffset_headsOf, ih hrest, h]
      split
      case h_1 next hnext =>
        split at hnext
        · cases hnext
        · cases hnext
          rw [Nat.add_sub_cancel_left, List.take_left]
      case h_2 hnext =>
        split at hnext
        case isTrue hall => rw [tails_eq_nil hall, List.append_nil]
        case isFalse hall => cases hnext

/-! ### Cutting out parts -/

/-- The first offset among heads in order lies between the bound and the end of the input. -/
theorem firstOffset_mem_of_ascending {length previous next : Nat} {hs : List Head}
    (h : Ascending length previous hs) (hnext : firstOffset hs = some next) :
  previous ≤ next ∧ next ≤ length
  := by
  induction hs with
  | nil => cases hnext
  | cons head rest ih =>
    cases head with
    | inline bytes => apply ih h hnext
    | offset value =>
      cases hnext
      exact ⟨h.1, h.2.1⟩

/-- Heads in order that fit their sizes are those of parts, namely of the slices that they cut
out of the input, and the variable ones among these are all that comes from the first offset
on. -/
theorem exists_parts_of_fits
    {input : List UInt8} {hs : List Head} {sizes : List (Option Nat)} {previous : Nat}
    (hfits : List.Forall₂ Head.Fits hs sizes) (hascending : Ascending input.length previous hs) :
  ∃ parts, List.Forall₂ Part.Fits parts sizes ∧ parts.map Part.bytes = slices input hs
    ∧ (∀ offset, (∀ first ∈ firstOffset hs, first = offset) → headsOf offset parts = hs)
    ∧ tails parts = ((firstOffset hs).map fun first => input.drop first).getD []
  := by
  induction hfits generalizing previous with
  | nil => exact ⟨[], .nil, rfl, fun _ _ => rfl, rfl⟩
  | @cons head size others sizes hfit _ ih =>
    cases head with
    | inline bytes =>
      obtain ⟨parts, hparts, hslices, hheads, htails⟩ := ih hascending
      use ⟨true, bytes⟩ :: parts
      cases size with
      | none => cases hfit
      | some n =>
        refine ⟨.cons ⟨rfl, ?_⟩ hparts, ?_, ?_, ?_⟩
        · rintro _ ⟨⟩
          apply hfit
        · rw [List.map_cons, hslices, slices]
        · intro offset hoffset
          rw [headsOf, if_pos rfl, hheads offset hoffset]
        · rw [tails, if_pos rfl, htails, firstOffset]
    | offset value =>
      obtain ⟨-, hvalue, hothers⟩ := hascending
      obtain ⟨parts, hparts, hslices, hheads, htails⟩ := ih hothers
      cases size with
      | some n => cases hfit
      | none =>
        cases hnext : firstOffset others with
        | none =>
          rw [hnext] at hheads htails
          use ⟨false, input.drop value⟩ :: parts
          refine ⟨.cons ⟨rfl, by simp⟩ hparts, ?_, ?_, ?_⟩
          · rw [List.map_cons, hslices, slices, hnext]
          · intro offset hoffset
            obtain rfl := hoffset value rfl
            rw [headsOf, if_neg Bool.false_ne_true, hheads _ (by simp)]
          · rw [tails, if_neg Bool.false_ne_true, htails]
            apply List.append_nil
        | some next =>
          rw [hnext] at hheads htails
          obtain ⟨hle, hlength⟩ := firstOffset_mem_of_ascending hothers hnext
          use ⟨false, (input.drop value).take (next - value)⟩ :: parts
          refine ⟨.cons ⟨rfl, by simp⟩ hparts, ?_, ?_, ?_⟩
          · rw [List.map_cons, hslices, slices, hnext]
          · intro offset hoffset
            obtain rfl := hoffset value rfl
            rw [headsOf, if_neg Bool.false_ne_true, hheads]
            rintro _ ⟨⟩
            rw [List.length_take, List.length_drop]
            omega
          · have hdrop : input.drop next = (input.drop value).drop (next - value) := by
              rw [List.drop_drop, Nat.add_sub_cancel' hle]
            rw [tails, if_neg Bool.false_ne_true, htails, Option.map_some, Option.getD_some, hdrop]
            apply List.take_append_drop

/-! ### Splitting a record -/

/-- Of two checks that a number is not below and not above another, none fails exactly when
they are equal. -/
private theorem check_eq_ok_iff {first cursor : Nat} {below above : Error}
    {xs ys : List (List UInt8)} :
  (if first < cursor then .error below else if cursor < first then .error above else .ok xs)
      = (.ok ys : Except Error (List (List UInt8)))
    ↔ first = cursor ∧ xs = ys
  := by
  split
  · simp
    omega
  · split
    · simp
      omega
    · simp
      omega

/-- A record is split when its length is the total of its sizes, where they have one, and the
first of its offsets stands right behind its heads. -/
theorem split_eq_ok_iff_readHeads
    {sizes : List (Option Nat)} {input : List UInt8} {bytes : List (List UInt8)} :
  split sizes input = .ok bytes
    ↔ (∀ total ∈ totalSize? sizes, input.length = total)
      ∧ ∃ hs cursor, readHeads input.length sizes input 0 none = .ok (hs, cursor)
        ∧ (∀ first ∈ firstOffset hs, first = cursor) ∧ slices input hs = bytes
  := by
  rw [split]
  cases hread : readHeads input.length sizes input 0 none with
  | error e =>
    cases totalSize? sizes with
    | none => simp [bind, Except.bind]
    | some total => by_cases h : input.length = total <;> simp [bind, Except.bind, h]
  | ok r =>
    obtain ⟨hs, cursor⟩ := r
    cases totalSize? sizes with
    | none =>
      cases hfirst : firstOffset hs with
      | none => simp [bind, Except.bind, hfirst, pure, Except.pure]
      | some first =>
        simp [bind, Except.bind, hfirst, pure, Except.pure, throw, throwThe, MonadExceptOf.throw,
          check_eq_ok_iff]
    | some total =>
      by_cases h : input.length = total
      · cases hfirst : firstOffset hs with
        | none => simp [bind, Except.bind, hfirst, pure, Except.pure, h]
        | some first =>
          simp [bind, Except.bind, hfirst, pure, Except.pure, throw, throwThe,
            MonadExceptOf.throw, check_eq_ok_iff, h]
      · simp [bind, Except.bind, throw, throwThe, MonadExceptOf.throw, h]

/-- The layout of parts is split into them when its length fits an offset. -/
theorem split_assemble {parts : List Part} {sizes : List (Option Nat)}
    (h : List.Forall₂ Part.Fits parts sizes)
    (hbound : (assemble parts).length < 256 ^ offsetSize) :
  split sizes (assemble parts) = .ok (parts.map Part.bytes)
  := by
  rw [split_eq_ok_iff_readHeads]
  rw [length_assemble] at hbound
  constructor
  · intro total htotal
    rw [totalSize?_of_fits h] at htotal
    split at htotal
    case isTrue hall =>
      cases htotal
      rw [length_assemble, tails_eq_nil hall]
      rfl
    case isFalse => cases htotal
  · use headsOf (headsSize parts) parts, headsSize parts
    refine ⟨?_, ?_, ?_⟩
    · rw [readHeads_eq_ok_iff (Nat.zero_add _), flatMap_headsOf, length_heads, Nat.zero_add]
      refine ⟨fits_headsOf h hbound, ?_, ?_, rfl⟩
      · apply List.prefix_append
      · apply ascending_headsOf (Nat.zero_le _)
        apply Nat.le_of_eq (length_assemble parts).symm
    · intro first hfirst
      rw [firstOffset_headsOf] at hfirst
      split at hfirst
      · cases hfirst
      · cases hfirst
        rfl
    · apply slices_headsOf
      rw [assemble]
      apply List.drop_left' (length_heads _ _)

/-- What is split into parts is their layout. -/
theorem assemble_of_split
    {sizes : List (Option Nat)} {input : List UInt8} {bytes : List (List UInt8)}
    (h : split sizes input = .ok bytes) :
  ∃ parts, List.Forall₂ Part.Fits parts sizes ∧ parts.map Part.bytes = bytes
    ∧ assemble parts = input
  := by
  obtain ⟨htotal, hs, cursor, hread, hfirst, rfl⟩ := split_eq_ok_iff_readHeads.mp h
  rw [readHeads_eq_ok_iff (Nat.zero_add _), Nat.zero_add] at hread
  obtain ⟨hfits, hbegins, hascending, hcursor⟩ := hread
  obtain ⟨parts, hparts, hslices, hheads, htails⟩ := exists_parts_of_fits hfits hascending
  refine ⟨parts, hparts, hslices, ?_⟩
  obtain rfl := hheads cursor hfirst
  rw [flatMap_headsOf, length_heads] at hcursor
  rw [flatMap_headsOf, List.prefix_iff_eq_take, length_heads, ← hcursor] at hbegins
  rw [assemble, ← hcursor, hbegins, htails]
  rw [firstOffset_headsOf] at hfirst ⊢
  cases hall : parts.all Part.fixed with
  | true =>
    have hlength := htotal _ (by rw [totalSize?_of_fits hparts, if_pos hall]; rfl)
    rw [if_pos rfl, Option.map_none, Option.getD_none, List.append_nil, hcursor, ← hlength,
      List.take_length]
  | false =>
    rw [if_neg Bool.false_ne_true]
    apply List.take_append_drop

/-! ### The first offset of a record -/

/-- The place of the first offset in a record with parts of the given sizes. -/
def offsetPlace? : List (Option Nat) → Option Nat
  | [] => none
  | some size :: rest => (offsetPlace? rest).map (size + ·)
  | none :: _ => some 0

/-- The number of bytes in front of the variable parts of a record. -/
def headTotal : List (Option Nat) → Nat
  | [] => 0
  | size :: rest => size.getD offsetSize + headTotal rest

/-- Parts take up the total of their sizes in front of the variable parts. -/
theorem headsSize_of_fits {parts : List Part} {sizes : List (Option Nat)}
    (h : List.Forall₂ Part.Fits parts sizes) :
  headsSize parts = headTotal sizes
  := by
  induction h with
  | nil => rfl
  | @cons p size rest sizes hp _ ih =>
    obtain ⟨hfixed, hsize⟩ := hp
    rw [headsSize, headTotal, ih, Part.headSize, hfixed]
    cases size with
    | none => rfl
    | some n => rw [Option.isSome_some, if_pos rfl, hsize n rfl, Option.getD_some]

/-- The first offset among heads stands at its place and is where the variable parts begin. -/
theorem heads_eq_append {parts : List Part} {sizes : List (Option Nat)} {place : Nat}
    (h : List.Forall₂ Part.Fits parts sizes) (hplace : offsetPlace? sizes = some place)
    (offset : Nat) :
  ∃ front back, heads offset parts = front ++ (littleEndian offsetSize offset ++ back)
    ∧ front.length = place
  := by
  induction h generalizing place with
  | nil => cases hplace
  | @cons p size rest sizes hp _ ih =>
    obtain ⟨hfixed, hsize⟩ := hp
    cases size with
    | none =>
      obtain rfl := Option.some.inj hplace
      rw [heads, hfixed, Option.isSome_none, if_neg Bool.false_ne_true]
      exact ⟨[], _, rfl, rfl⟩
    | some n =>
      obtain ⟨place', hplace', rfl⟩ := Option.map_eq_some_iff.mp hplace
      obtain ⟨front, back, hheads, hfront⟩ := ih hplace'
      use p.bytes ++ front, back
      constructor
      · rw [heads, hfixed, Option.isSome_some, if_pos rfl, hheads, List.append_assoc]
      · rw [List.length_append, hsize n rfl, hfront]

/-- In a record that is split, the first offset is the number of bytes in front of the
variable parts. -/
theorem offset_of_split
    {sizes : List (Option Nat)} {input : List UInt8} {bytes : List (List UInt8)} {place : Nat}
    (h : split sizes input = .ok bytes) (hplace : offsetPlace? sizes = some place) :
  (input.drop place).take offsetSize = littleEndian offsetSize (headTotal sizes)
  := by
  obtain ⟨parts, hfits, -, rfl⟩ := assemble_of_split h
  obtain ⟨front, back, hheads, hfront⟩ := heads_eq_append hfits hplace (headTotal sizes)
  rw [assemble, headsSize_of_fits hfits, hheads, List.append_assoc, List.append_assoc,
    List.drop_left' hfront, List.take_left' (length_littleEndian _ _)]

end BeaconLight.Ssz

import Mathlib.Data.List.DropRight
import BeaconLight.Text.Blank

/-!
# Stripping

Nothing is left of a list exactly when all of it may be taken off, so a text that is trimmed is
empty exactly when it is blank throughout. What stands around an element that stays is stripped on
its own side.
-/

namespace BeaconLight.Text

variable {α : Type} {test : α → Bool}

/-- Nothing is left exactly when every element may be taken off. -/
theorem stripBoth_eq_nil_iff {xs : List α} :
  stripBoth test xs = [] ↔ ∀ x ∈ xs, test x = true
  := by
  apply List.rdropWhile_eq_nil_iff.trans
  constructor
  · intro h
    rw [← List.dropWhile_eq_nil_iff, ← List.dropWhile_idempotent test]
    exact List.dropWhile_eq_nil_iff.mpr h
  · intro h x hx
    exact h x ((List.dropWhile_suffix test).subset hx)

/-- A text that is trimmed is empty exactly when it is blank throughout. -/
theorem trim_eq_empty_iff {text : String} :
  trim text = "" ↔ ∀ c ∈ text.toList, isBlank c = true
  := by
  rw [trim, ← stripBoth_eq_nil_iff]
  constructor
  · intro h
    apply String.ofList_injective h
  · intro h
    rw [h]

theorem stripEnd_append_of_forall {ys : List α} (hys : ∀ y ∈ ys, test y = true) (xs : List α) :
  stripEnd test (xs ++ ys) = stripEnd test xs
  := by
  have hreverse : ∀ y ∈ ys.reverse, test y = true := by
    intro y hy
    exact hys y (List.mem_reverse.mp hy)
  rw [stripEnd, stripEnd, List.reverse_append, List.dropWhile_append_of_pos hreverse]

theorem stripEnd_concat {x : α} (hx : test x = true) (xs : List α) :
  stripEnd test (xs ++ [x]) = stripEnd test xs
  := stripEnd_append_of_forall (List.forall_mem_singleton.mpr hx) xs

/-- All of an element but once is taken off the end exactly when a list ends in no two of it. -/
theorem stripEnd_append_eq_iff {x : α} (hx : test x = true) (hother : ∀ y, test y = true → y = x)
    (xs : List α) :
  stripEnd test xs ++ [x] = xs ++ [x] ↔ ¬ [x, x] <:+ xs ++ [x]
  := by
  have hdrop : stripEnd test xs = xs ↔ ∀ h : xs ≠ [], ¬ test (xs.getLast h) = true :=
    List.rdropWhile_eq_self_iff
  rw [List.append_left_inj, hdrop]
  constructor
  · rintro hlast ⟨front, hfront⟩
    rw [List.append_cons, List.append_left_inj] at hfront
    subst hfront
    apply hlast (List.append_ne_nil_of_right_ne_nil _ (List.cons_ne_nil _ _))
    rw [List.getLast_append_singleton]
    exact hx
  · intro hsuffix hnonempty hlast
    apply hsuffix
    refine ⟨xs.dropLast, ?_⟩
    rw [List.append_cons, List.append_left_inj]
    conv_rhs => rw [← List.dropLast_append_getLast hnonempty, hother _ hlast]

/-- What is taken off the end stands behind an element that stays. -/
theorem stripEnd_append_cons {x : α} (hx : test x = false) (xs ys : List α) :
  stripEnd test (xs ++ x :: ys) = xs ++ x :: stripEnd test ys
  := by
  have hstays : ¬ test x = true := by
    rw [hx]
    exact Bool.false_ne_true
  rw [stripEnd, stripEnd, List.reverse_append, List.reverse_cons, List.append_assoc,
    List.dropWhile_append]
  split
  case isTrue hempty =>
    rw [List.isEmpty_iff.mp hempty, List.singleton_append, List.dropWhile_cons_of_neg hstays]
    simp
  case isFalse => simp

/-- Around an element that stays a list with others in front that stay is stripped on either
side. -/
theorem stripBoth_append_cons {x : α} {xs : List α} (hx : test x = false)
    (hxs : xs.dropWhile test ≠ []) (ys : List α) :
  stripBoth test (xs ++ x :: ys) = xs.dropWhile test ++ x :: stripEnd test ys
  := by
  have hfront : ¬ (xs.dropWhile test).isEmpty = true := by
    rw [List.isEmpty_iff]
    exact hxs
  rw [← stripEnd_append_cons hx]
  apply congrArg (stripEnd test)
  rw [List.dropWhile_append, if_neg hfront]

end BeaconLight.Text

import Mathlib.Data.List.Forall2

/-!
# Results that may be errors

When a computation that may fail succeeds, each of its steps does.
-/

universe u

namespace Except

variable {ε ε' α β : Type u}

/-- A sequence of two steps succeeds exactly when the first does and then the second. -/
theorem bind_eq_ok_iff {x : Except ε α} {f : α → Except ε β} {b : β} :
  x >>= f = .ok b ↔ ∃ a, x = .ok a ∧ f a = .ok b
  := by
  cases x with
  | error e =>
    constructor
    · intro h
      cases h
    · rintro ⟨a, ha, -⟩
      cases ha
  | ok a =>
    constructor
    · intro h
      exact ⟨a, rfl, h⟩
    · rintro ⟨_, ⟨⟩, h⟩
      apply h

theorem map_eq_ok_iff {x : Except ε α} {f : α → β} {b : β} :
  x.map f = .ok b ↔ ∃ a, x = .ok a ∧ f a = b
  := by
  cases x with
  | error e => simp [Except.map]
  | ok a => simp [Except.map]

/-- A sequence of two steps fails exactly when the first does or else the second. -/
theorem bind_eq_error_iff {x : Except ε α} {f : α → Except ε β} {e : ε} :
  x >>= f = .error e ↔ x = .error e ∨ ∃ a, x = .ok a ∧ f a = .error e
  := by
  cases x with
  | error e' =>
    constructor
    · rintro ⟨⟩
      exact .inl rfl
    · rintro (⟨⟨⟩⟩ | ⟨a, ⟨⟩, -⟩)
      rfl
  | ok a =>
    constructor
    · intro h
      exact .inr ⟨a, rfl, h⟩
    · rintro (⟨⟨⟩⟩ | ⟨_, ⟨⟩, h⟩)
      exact h

/-- A check and another step succeed exactly when the check passes and then the step does. -/
theorem check_bind_eq_ok_iff {ε β : Type} {x : Except ε Unit} {f : Unit → Except ε β} {b : β} :
  x >>= f = .ok b ↔ x = .ok () ∧ f () = .ok b
  := by
  rw [bind_eq_ok_iff]
  constructor
  · rintro ⟨_, hx, hf⟩
    exact ⟨hx, hf⟩
  · rintro ⟨hx, hf⟩
    exact ⟨(), hx, hf⟩

/-- A check and another step fail exactly when the check does or else the step. -/
theorem check_bind_eq_error_iff {ε β : Type} {x : Except ε Unit} {f : Unit → Except ε β} {e : ε} :
  x >>= f = .error e ↔ x = .error e ∨ (x = .ok () ∧ f () = .error e)
  := by
  rw [bind_eq_error_iff]
  constructor
  · rintro (hx | ⟨_, hx, hf⟩)
    · exact .inl hx
    · exact .inr ⟨hx, hf⟩
  · rintro (hx | ⟨hx, hf⟩)
    · exact .inl hx
    · exact .inr ⟨(), hx, hf⟩

theorem map_eq_error_iff {x : Except ε α} {f : α → β} {e : ε} :
  x.map f = .error e ↔ x = .error e
  := by
  cases x with
  | error e' => simp [Except.map]
  | ok a => simp [Except.map]

theorem map_map {γ : Type u} (x : Except ε α) (f : α → β) (g : β → γ) :
  (x.map f).map g = x.map fun a => g (f a)
  := by
  cases x with
  | error e => rfl
  | ok a => rfl

theorem mapError_eq_ok_iff {x : Except ε α} {f : ε → ε'} {a : α} :
  x.mapError f = .ok a ↔ x = .ok a
  := by
  cases x with
  | error e => simp [Except.mapError]
  | ok a' => simp [Except.mapError]

theorem mapError_eq_error_iff {x : Except ε α} {f : ε → ε'} {e' : ε'} :
  x.mapError f = .error e' ↔ ∃ e, x = .error e ∧ f e = e'
  := by
  cases x with
  | error e => simp [Except.mapError]
  | ok a => simp [Except.mapError]

/-- Two steps come to the same up to a map of their errors when each does. -/
theorem bind_eq_mapError {x : Except ε α} {x' : Except ε' α} {f : α → Except ε β}
    {f' : α → Except ε' β} {g : ε → ε'} (hx : x' = x.mapError g)
    (hf : ∀ a, f' a = (f a).mapError g) :
  x' >>= f' = (x >>= f).mapError g
  := by
  subst hx
  cases x with
  | error e => rfl
  | ok a => apply hf

theorem map_eq_mapError {x : Except ε α} {x' : Except ε' α} {f : α → β} {g : ε → ε'}
    (hx : x' = x.mapError g) :
  x'.map f = (x.map f).mapError g
  := by
  subst hx
  cases x with
  | error e => rfl
  | ok a => rfl

/-- Results that are the same where they are successes are the same up to their errors. -/
theorem toOption_eq_of_eq_ok_iff {x y : Except ε α} (h : ∀ a, x = .ok a ↔ y = .ok a) :
  x.toOption = y.toOption
  := by
  cases x with
  | ok a => rw [(h a).mp rfl]
  | error e =>
    cases y with
    | ok a => cases (h a).mpr rfl
    | error e' => rfl

/-- A step that may fail succeeds on a list exactly when it does on each element, and gives
the results in order. -/
theorem mapM_eq_ok_iff {f : α → Except ε β} {xs : List α} {ys : List β} :
  xs.mapM f = .ok ys ↔ List.Forall₂ (fun x y => f x = .ok y) xs ys
  := by
  induction xs generalizing ys with
  | nil =>
    rw [List.mapM_nil, List.forall₂_nil_left_iff]
    constructor
    · rintro ⟨⟩
      rfl
    · rintro rfl
      rfl
  | cons x rest ih =>
    rw [List.mapM_cons, List.forall₂_cons_left_iff, bind_eq_ok_iff]
    constructor
    · rintro ⟨y, hy, h⟩
      obtain ⟨others, hothers, h⟩ := bind_eq_ok_iff.mp h
      cases h
      exact ⟨y, others, hy, ih.mp hothers, rfl⟩
    · rintro ⟨y, others, hy, hothers, rfl⟩
      exact ⟨y, hy, bind_eq_ok_iff.mpr ⟨others, ih.mpr hothers, rfl⟩⟩

/-- A step that may fail fails on a list exactly with its error on the first element that it
fails on. -/
theorem mapM_eq_error_iff {f : α → Except ε β} {xs : List α} {e : ε} :
  xs.mapM f = .error e ↔
    ∃ (i : Nat) (x : α), xs[i]? = some x ∧ f x = .error e ∧
      ∀ j < i, ∀ y, xs[j]? = some y → ∃ z, f y = .ok z
  := by
  induction xs with
  | nil =>
    rw [List.mapM_nil]
    constructor
    · rintro ⟨⟩
    · rintro ⟨i, x, ⟨⟩, -⟩
  | cons x rest ih =>
    rw [List.mapM_cons, bind_eq_error_iff]
    constructor
    · rintro (hx | ⟨y, hy, h⟩)
      · refine ⟨0, x, rfl, hx, ?_⟩
        intro j hj
        cases hj
      · rcases bind_eq_error_iff.mp h with hrest | ⟨_, _, ⟨⟩⟩
        obtain ⟨i, x', hx', he, hbefore⟩ := ih.mp hrest
        refine ⟨i + 1, x', hx', he, ?_⟩
        rintro (_ | j) hj y' hy'
        · obtain rfl := Option.some.inj hy'
          exact ⟨y, hy⟩
        · exact hbefore j (Nat.lt_of_succ_lt_succ hj) y' hy'
    · rintro ⟨_ | i, x', hx', he, hbefore⟩
      · obtain rfl := Option.some.inj hx'
        exact .inl he
      · obtain ⟨y, hy⟩ := hbefore 0 (Nat.zero_lt_succ i) x rfl
        refine .inr ⟨y, hy, bind_eq_error_iff.mpr (.inl (ih.mpr ⟨i, x', hx', he, ?_⟩))⟩
        intro j hj
        exact hbefore (j + 1) (Nat.succ_lt_succ hj)

/-- On a list two steps come to the same up to a map of their errors when they do on each
element. -/
theorem mapM_eq_mapError {f : α → Except ε β} {f' : α → Except ε' β} {g : ε → ε'}
    (h : ∀ x, f' x = (f x).mapError g) (xs : List α) :
  xs.mapM f' = (xs.mapM f).mapError g
  := by
  induction xs with
  | nil => rfl
  | cons x rest ih =>
    rw [List.mapM_cons, List.mapM_cons]
    apply bind_eq_mapError (h x)
    intro y
    apply bind_eq_mapError ih
    intro ys
    rfl

/-- With the index of each element at hand, a step succeeds on a list exactly when it does on
each element. -/
theorem mapM_zipIdx_eq_ok_iff {f : α × Nat → Except ε β} {Reads : α → β → Prop}
    (h : ∀ a i b, f (a, i) = .ok b ↔ Reads a b) {k : Nat} {xs : List α} {ys : List β} :
  (xs.zipIdx k).mapM f = .ok ys ↔ List.Forall₂ Reads xs ys
  := by
  rw [mapM_eq_ok_iff]
  nth_rewrite 2 [← List.zipIdx_map_fst k xs]
  rw [List.forall₂_map_left_iff]
  simp only [h]

/-- With the index of each element at hand, a step fails on a list exactly with its error on the
first element that it fails on. -/
theorem mapM_zipIdx_eq_error_iff {f : α × Nat → Except ε β} {k : Nat} {xs : List α} {e : ε} :
  (xs.zipIdx k).mapM f = .error e ↔
    ∃ (i : Nat) (a : α), xs[i]? = some a ∧ f (a, k + i) = .error e ∧
      ∀ j < i, ∀ b, xs[j]? = some b → ∃ y, f (b, k + j) = .ok y
  := by
  rw [mapM_eq_error_iff]
  simp only [List.getElem?_zipIdx, Option.map_eq_some_iff]
  constructor
  · rintro ⟨i, _, ⟨a, ha, rfl⟩, he, hbefore⟩
    refine ⟨i, a, ha, he, ?_⟩
    intro j hj b hb
    apply hbefore j hj _ ⟨b, hb, rfl⟩
  · rintro ⟨i, a, ha, he, hbefore⟩
    refine ⟨i, _, ⟨a, ha, rfl⟩, he, ?_⟩
    rintro j hj _ ⟨b, hb, rfl⟩
    apply hbefore j hj b hb

/-- When one element of a list that a step succeeds on is replaced, the step comes to what it
does on the new element, put in its place. -/
theorem mapM_zipIdx_set {f : α × Nat → Except ε β} {k : Nat} {xs : List α} {ys : List β}
    (h : (xs.zipIdx k).mapM f = .ok ys) {i : Nat} (hi : i < xs.length) (x : α) :
  ((xs.set i x).zipIdx k).mapM f = (f (x, k + i)).map (ys.set i ·)
  := by
  induction xs generalizing i k ys with
  | nil => cases hi
  | cons first rest ih =>
    rw [List.zipIdx_cons, List.mapM_cons] at h
    obtain ⟨y, hy, h⟩ := bind_eq_ok_iff.mp h
    obtain ⟨others, hothers, h⟩ := bind_eq_ok_iff.mp h
    cases h
    cases i with
    | zero =>
      rw [List.set_cons_zero, List.zipIdx_cons, List.mapM_cons, hothers, Nat.add_zero]
      cases f (x, k) with
      | error e => rfl
      | ok y' => rfl
    | succ i =>
      rw [List.set_cons_succ, List.zipIdx_cons, List.mapM_cons, hy,
        ih hothers (Nat.lt_of_succ_lt_succ hi), Nat.add_right_comm, Nat.add_assoc]
      cases f (x, k + (i + 1)) with
      | error e => rfl
      | ok y' => rfl

end Except

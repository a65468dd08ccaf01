import Mathlib.Data.List.Induction
import BeaconLight.Proofs.Json.Members

/-!
# Objects up to what is found in them

Members in canonical form are sorted: their names rise, each is there once, and under each is the
canonical form of what was found there. Sorted members are told apart by what is found under
names, so two objects have one canonical form exactly when the same is found in both, up to its
own canonical form.
-/

namespace BeaconLight.Json

/-! ### Sorted members -/

section Sorted

variable {α : Type} {name : String} {value : α} {members : List (String × α)}

/-- The names of members rise, so each name is there once. -/
def IsSorted (members : List (String × α)) : Prop :=
  members.Pairwise fun member later => member.1 < later.1

theorem IsSorted.nodup (h : IsSorted members) :
  (members.map Prod.fst).Nodup
  := by
  apply List.pairwise_map.mpr
  apply h.imp
  intro member later hlt
  apply ne_of_lt hlt

/-- A member that is put in is there. -/
theorem mem_insert_self (name : String) (value : α) (members : List (String × α)) :
  (name, value) ∈ insert name value members
  := by
  induction members with
  | nil => apply List.mem_singleton_self
  | cons member rest ih =>
    obtain ⟨key, old⟩ := member
    rcases lt_trichotomy name key with h | rfl | h
    · rw [insert_of_lt h]
      apply List.mem_cons_self
    · rw [insert_self]
      apply List.mem_cons_self
    · rw [insert_of_gt h]
      apply List.mem_cons_of_mem _ ih

/-- The members after one is put in are that one and others that were there. -/
theorem eq_or_mem_of_mem_insert {member : String × α}
    (h : member ∈ insert name value members) :
  member = (name, value) ∨ member ∈ members
  := by
  induction members with
  | nil =>
    left
    apply List.mem_singleton.mp h
  | cons first rest ih =>
    obtain ⟨key, old⟩ := first
    rcases lt_trichotomy name key with hkey | rfl | hkey
    · rw [insert_of_lt hkey] at h
      apply List.mem_cons.mp h
    · rw [insert_self] at h
      exact (List.mem_cons.mp h).imp_right (List.mem_cons_of_mem _)
    · rw [insert_of_gt hkey] at h
      rcases List.mem_cons.mp h with rfl | hrest
      · right
        apply List.mem_cons_self
      · exact (ih hrest).imp_right (List.mem_cons_of_mem _)

/-- Sorted members stay sorted when one is put in. -/
theorem IsSorted.insert (h : IsSorted members) (name : String) (value : α) :
  IsSorted (insert name value members)
  := by
  induction members with
  | nil => apply List.pairwise_singleton
  | cons member rest ih =>
    obtain ⟨key, old⟩ := member
    obtain ⟨hkey, hrest⟩ := List.pairwise_cons.mp h
    rcases lt_trichotomy name key with hlt | rfl | hgt
    · rw [insert_of_lt hlt]
      apply List.pairwise_cons.mpr ⟨_, h⟩
      rw [List.forall_mem_cons]
      exact ⟨hlt, fun later hlater => hlt.trans (hkey later hlater)⟩
    · rw [insert_self]
      exact List.pairwise_cons.mpr ⟨hkey, hrest⟩
    · rw [insert_of_gt hgt]
      apply List.pairwise_cons.mpr ⟨_, ih hrest⟩
      intro later hlater
      rcases eq_or_mem_of_mem_insert hlater with rfl | hlater
      · exact hgt
      · exact hkey later hlater

theorem sorted_append_singleton (members : List (String × α)) (name : String) (value : α) :
  sorted (members ++ [(name, value)]) = insert name value (sorted members)
  := List.foldl_append

theorem isSorted_sorted (members : List (String × α)) :
  IsSorted (sorted members)
  := by
  induction members using List.reverseRecOn with
  | nil => apply List.Pairwise.nil
  | append_singleton others last ih =>
    rw [sorted_append_singleton]
    apply ih.insert

end Sorted

/-! ### What is found in sorted members -/

section Find

variable {name other : String} {value : Json} {members members' : Members}

/-- What is found is a member. -/
theorem mem_of_find?_eq_some (h : find? name members = some value) :
  (name, value) ∈ members
  := by
  induction members with
  | nil => cases h
  | cons member rest ih =>
    obtain ⟨key, first⟩ := member
    rw [find?] at h
    split at h
    case h_1 later hlater =>
      rw [hlater] at ih
      exact List.mem_cons_of_mem _ (ih h)
    case h_2 =>
      by_cases hkey : key = name
      · rw [if_pos hkey] at h
        obtain rfl := Option.some.inj h
        rw [hkey]
        apply List.mem_cons_self
      · rw [if_neg hkey] at h
        cases h

theorem IsSorted.find?_insert_self (h : IsSorted members) (name : String) (value : Json) :
  find? name (Json.insert name value members) = some value
  := find?_eq_some (h.insert name value).nodup (mem_insert_self name value members)

/-- Under other names is what was found there. -/
theorem find?_insert_of_ne (h : other ≠ name) (value : Json) (members : Members) :
  find? other (insert name value members) = find? other members
  := by
  induction members with
  | nil =>
    rw [insert, find?]
    exact if_neg h.symm
  | cons member rest ih =>
    obtain ⟨key, old⟩ := member
    rcases lt_trichotomy name key with hkey | rfl | hkey
    · rw [insert_of_lt hkey, find?, if_neg h.symm]
      cases find? other ((key, old) :: rest) with
      | none => rfl
      | some later => rfl
    · rw [insert_self, find?, find?, if_neg h.symm, if_neg h.symm]
    · rw [insert_of_gt hkey, find?, find?, ih]

/-- Of members and one more the last of a name counts. -/
theorem find?_append_singleton (members : Members) (key name : String) (value : Json) :
  find? name (members ++ [(key, value)]) = if key = name then some value else find? name members
  := by
  induction members with
  | nil => rfl
  | cons member rest ih =>
    obtain ⟨first, old⟩ := member
    rw [List.cons_append, find?, ih, find?]
    by_cases hkey : key = name
    · rw [if_pos hkey, if_pos hkey]
    · rw [if_neg hkey, if_neg hkey]

/-- Sorting keeps what is found under each name. -/
theorem find?_sorted (name : String) (members : Members) :
  find? name (sorted members) = find? name members
  := by
  induction members using List.reverseRecOn with
  | nil => rfl
  | append_singleton others last ih =>
    obtain ⟨key, value⟩ := last
    rw [sorted_append_singleton, find?_append_singleton]
    by_cases hkey : key = name
    · rw [hkey, if_pos rfl]
      apply (isSorted_sorted others).find?_insert_self
    · rw [if_neg hkey, find?_insert_of_ne (Ne.symm hkey), ih]

/-- Sorted members are told apart by what is found under names. -/
theorem IsSorted.eq_of_find?_eq (h : IsSorted members) (h' : IsSorted members')
    (hfind : ∀ name, find? name members = find? name members') :
  members = members'
  := by
  have hmem (member : String × Json) : member ∈ members ↔ member ∈ members' := by
    constructor
    · intro hmember
      apply mem_of_find?_eq_some
      rw [← hfind]
      apply find?_eq_some h.nodup hmember
    · intro hmember
      apply mem_of_find?_eq_some
      rw [hfind]
      apply find?_eq_some h'.nodup hmember
  have hperm : members.Perm members' :=
    (List.perm_ext_iff_of_nodup h.nodup.of_map h'.nodup.of_map).mpr hmem
  apply hperm.eq_of_pairwise _ h h'
  intro member member' _ _ hlt hgt
  exact absurd hlt hgt.not_gt

/-! ### Canonical forms -/

/-- Under each name is the canonical form of what was found there. -/
theorem find?_canonicalMembers (name : String) (members : Members) :
  find? name (canonicalMembers members) = (find? name members).map canonical
  := by
  induction members with
  | nil => rfl
  | cons member rest ih =>
    obtain ⟨key, value⟩ := member
    rw [canonicalMembers, find?, find?, ih]
    cases find? name rest with
    | some later => rfl
    | none =>
      by_cases hkey : key = name
      · rw [Option.map_none, if_pos hkey, if_pos hkey, Option.map_some]
      · rw [Option.map_none, if_neg hkey, if_neg hkey, Option.map_none]

/-- Under each name of an object in canonical form is the canonical form of what was found
there. -/
theorem find?_sorted_canonicalMembers (name : String) (members : Members) :
  find? name (sorted (canonicalMembers members)) = (find? name members).map canonical
  := by rw [find?_sorted, find?_canonicalMembers]

/-- Two objects have one canonical form exactly when the same is found in both, up to its own
canonical form. -/
theorem canonical_object_eq_iff :
  (object members).canonical = (object members').canonical ↔
    ∀ name, (find? name members).map canonical = (find? name members').map canonical
  := by
  rw [canonical, canonical, Json.object.injEq]
  simp only [← find?_sorted_canonicalMembers]
  constructor
  · intro h name
    rw [h]
  · intro h
    apply (isSorted_sorted _).eq_of_find?_eq (isSorted_sorted _) h

end Find

end BeaconLight.Json

import Mathlib.Data.List.Nodup
import Mathlib.Data.String.Basic
import BeaconLight.Json.Basic

/-!
# Members of objects

A name is looked up among members by `find?`, and `insert` puts a member among others. Members of
different names may be put in in any order, and of two of one name the later stays, so members of
different names sort to the same list in whatever order they come. A member may be changed or
taken away without a change to what is found under other names.
-/

namespace BeaconLight.Json

/-! ### Looking a name up -/

/-- A name is not found exactly when no member has it. -/
theorem find?_eq_none_iff {name : String} {members : Members} :
  find? name members = none ↔ name ∉ members.map Prod.fst
  := by
  induction members with
  | nil => simp [find?]
  | cons member rest ih =>
    obtain ⟨key, value⟩ := member
    rw [find?, List.map_cons, List.mem_cons, not_or, ← ih]
    cases hrest : find? name rest with
    | none => simp [eq_comm]
    | some later => simp

/-- Among members of different names, each is found by its name. -/
theorem find?_eq_some {name : String} {value : Json} {members : Members}
    (hnames : (members.map Prod.fst).Nodup) (hmember : (name, value) ∈ members) :
  find? name members = some value
  := by
  induction members with
  | nil => cases hmember
  | cons member rest ih =>
    obtain ⟨key, first⟩ := member
    obtain ⟨hkey, hrest⟩ := List.nodup_cons.mp hnames
    rcases List.mem_cons.mp hmember with hfirst | hlater
    · obtain ⟨rfl, rfl⟩ := Prod.mk.inj hfirst
      rw [find?, find?_eq_none_iff.mpr hkey]
      exact if_pos rfl
    · rw [find?, ih hrest hlater]

/-! ### Changing a member and taking it away -/

/-- Changes the value of the members of a name. -/
def modify (name : String) (f : Json → Json) (members : Members) : Members :=
  members.map fun member => if member.1 = name then (name, f member.2) else member

/-- Under the name is what was found there, changed. -/
theorem find?_modify (name : String) (f : Json → Json) (members : Members) :
  find? name (modify name f members) = (find? name members).map f
  := by
  induction members with
  | nil => rfl
  | cons member rest ih =>
    obtain ⟨key, value⟩ := member
    rw [modify] at ih
    by_cases hkey : key = name
    · rw [modify, List.map_cons, if_pos hkey, find?, find?, ih]
      cases find? name rest with
      | none => rw [Option.map_none, if_pos rfl, if_pos hkey, Option.map_some]
      | some later => rfl
    · rw [modify, List.map_cons, if_neg hkey, find?, find?, ih]
      cases find? name rest with
      | none => rw [Option.map_none, if_neg hkey, Option.map_none]
      | some later => rfl

/-- Under other names is what was found there. -/
theorem find?_modify_of_ne {name other : String} (h : other ≠ name) (f : Json → Json)
    (members : Members) :
  find? other (modify name f members) = find? other members
  := by
  induction members with
  | nil => rfl
  | cons member rest ih =>
    obtain ⟨key, value⟩ := member
    rw [modify] at ih
    by_cases hkey : key = name
    · have hother : ¬ key = other := fun hkey' => h (hkey'.symm.trans hkey)
      rw [modify, List.map_cons, if_pos hkey, find?, find?, ih, if_neg hother, if_neg h.symm]
    · rw [modify, List.map_cons, if_neg hkey, find?, find?, ih]

theorem modify_of_notMem {name : String} {members : Members} (h : name ∉ members.map Prod.fst)
    (f : Json → Json) :
  modify name f members = members
  := by
  rw [modify, List.map_congr_left, List.map_id]
  intro member hmember
  apply if_neg
  rintro rfl
  exact h (List.mem_map_of_mem hmember)

/-- Nothing is found under a name that was taken away. -/
theorem find?_erase (name : String) (members : Members) :
  find? name (erase name members) = none
  := by
  rw [find?_eq_none_iff]
  intro hname
  obtain ⟨member, hmember, rfl⟩ := List.mem_map.mp hname
  have h := (List.mem_filter.mp hmember).2
  rw [decide_eq_true_eq] at h
  exact h rfl

/-- Under other names is what was found there. -/
theorem find?_erase_of_ne {name other : String} (h : other ≠ name) (members : Members) :
  find? other (erase name members) = find? other members
  := by
  induction members with
  | nil => rfl
  | cons member rest ih =>
    obtain ⟨key, value⟩ := member
    by_cases hkey : key = name
    · have hother : ¬ key = other := fun hkey' => h (hkey'.symm.trans hkey)
      rw [erase, List.filter_cons_of_neg (by simpa using hkey), ← erase, ih, find?, if_neg hother]
      cases find? other rest with
      | none => rfl
      | some later => rfl
    · rw [erase, List.filter_cons_of_pos (by simpa using hkey), ← erase, find?, find?, ih]

theorem find?_toList_map (name : String) (found : Option Json) :
  find? name (found.toList.map fun value => (name, value)) = found
  := by
  cases found with
  | none => rfl
  | some value => exact if_pos rfl

/-! ### Putting a member in -/

section Insert

variable {α : Type} {name name' key : String} {value value' old : α}
  {rest : List (String × α)}

theorem insert_of_lt (h : name < key) :
  insert name value ((key, old) :: rest) = (name, value) :: (key, old) :: rest
  := if_pos h

theorem insert_self :
  insert name value ((name, old) :: rest) = (name, value) :: rest
  := by rw [insert, if_neg (lt_irrefl name), if_pos rfl]

theorem insert_of_gt (h : key < name) :
  insert name value ((key, old) :: rest) = (key, old) :: insert name value rest
  := by rw [insert, if_neg h.not_gt, if_neg h.ne']

/-- Of two members of one name the later stays. -/
theorem insert_insert_self (members : List (String × α)) :
  insert name value (insert name value' members) = insert name value members
  := by
  induction members with
  | nil => apply insert_self
  | cons member rest ih =>
    obtain ⟨key, old⟩ := member
    rcases lt_trichotomy name key with h | rfl | h
    · rw [insert_of_lt h, insert_of_lt h, insert_self]
    · rw [insert_self, insert_self, insert_self]
    · rw [insert_of_gt h, insert_of_gt h, insert_of_gt h, ih]

/-- Two members may be put in in either order when the name of one is less than that of the
other. -/
theorem insert_comm_of_lt (h : name < name') (members : List (String × α)) :
  insert name' value' (insert name value members) = insert name value (insert name' value' members)
  := by
  induction members with
  | nil => rw [insert, insert, insert_of_gt h, insert_of_lt h, insert]
  | cons member rest ih =>
    obtain ⟨key, old⟩ := member
    rcases lt_trichotomy name key with hkey | rfl | hkey
    · rw [insert_of_lt hkey, insert_of_gt h]
      rcases lt_trichotomy name' key with hkey' | rfl | hkey'
      · rw [insert_of_lt hkey', insert_of_lt h]
      · rw [insert_self, insert_of_lt h]
      · rw [insert_of_gt hkey', insert_of_lt hkey]
    · rw [insert_self, insert_of_gt h, insert_of_gt h, insert_self]
    · rw [insert_of_gt hkey, insert_of_gt (hkey.trans h), insert_of_gt (hkey.trans h),
        insert_of_gt hkey, ih]

/-- Members of different names may be put in in any order. -/
theorem insert_comm (h : name ≠ name') (members : List (String × α)) :
  insert name' value' (insert name value members) = insert name value (insert name' value' members)
  := by
  rcases lt_or_gt_of_ne h with hlt | hgt
  · apply insert_comm_of_lt hlt
  · symm
    apply insert_comm_of_lt hgt

/-- Members of different names sort to the same list in whatever order they come. -/
theorem sorted_perm {members members' : List (String × α)} (h : members.Perm members')
    (hnames : (members.map Prod.fst).Nodup) :
  sorted members = sorted members'
  := by
  apply h.foldl_eq'
  intro member hmember member' hmember' done
  by_cases heq : member = member'
  · rw [heq]
  · apply insert_comm
    intro hname
    exact heq (List.inj_on_of_nodup_map hnames hmember hmember' hname)

/-- Of several members of one name the last stays when members are sorted. -/
theorem insert_sorted_append (members : List (String × α)) :
  insert name value (sorted (members ++ [(name, value')])) = insert name value (sorted members)
  := by
  rw [sorted, List.foldl_append]
  apply insert_insert_self

end Insert

/-! ### Taking members as they are -/

theorem erase_eq_self {name : String} {members : Members} (h : name ∉ members.map Prod.fst) :
  erase name members = members
  := by
  apply List.filter_eq_self.mpr
  intro member hmember
  rw [decide_eq_true_eq]
  rintro rfl
  exact h (List.mem_map_of_mem hmember)

theorem canonicalMembers_eq_self {members : Members}
    (h : ∀ member ∈ members, canonical member.2 = member.2) :
  canonicalMembers members = members
  := by
  induction members with
  | nil => rw [canonicalMembers]
  | cons member rest ih =>
    obtain ⟨hmember, hrest⟩ := List.forall_mem_cons.mp h
    rw [canonicalMembers, hmember, ih hrest]

end BeaconLight.Json

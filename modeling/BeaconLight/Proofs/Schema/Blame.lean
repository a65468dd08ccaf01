import BeaconLight.Proofs.Record.Section
import BeaconLight.Schema.Document

/-!
# What an error is about

A path lies within another when it is that path or leads on from it, to a member of the
object or an element of the list there. An error that comes up in reading the value at a path
names a path within that path.
-/

namespace BeaconLight

namespace Section

/-- A path is another one or leads on from it. -/
inductive Within (path : String) : String → Prop
  | self : Within path path
  | member {inner : String} (name : String) (h : Within path inner) :
    Within path (join inner name)
  | element {inner : String} (index : Nat) (h : Within path inner) :
    Within path (Section.element inner index)

theorem Within.trans {path inner last : String} (h : Within path inner)
    (h' : Within inner last) :
  Within path last
  := by
  induction h' with
  | self => apply h
  | member name _ ih => exact ih.member name
  | element index _ ih => exact ih.element index

theorem join_ne_empty {path : String} (h : path ≠ "") (name : String) :
  join path name ≠ ""
  := by
  rw [join, if_neg h]
  simp

theorem join_ne_empty_of_name {name : String} (h : name ≠ "") (path : String) :
  join path name ≠ ""
  := by
  rw [join]
  split
  · exact h
  · simp

theorem element_ne_empty (path : String) (index : Nat) :
  element path index ≠ ""
  := by
  rw [element]
  simp

end Section

/-- The error is about a field at a path or within it. -/
def RecordError.IsWithin (e : RecordError) (path : String) : Prop :=
  ∃ field, e.field? = some field ∧ Section.Within path field

/-- An error about a field within a path that lies within another is about a field within that
one. -/
theorem RecordError.IsWithin.trans {e : RecordError} {path inner : String}
    (h : e.IsWithin inner) (hinner : Section.Within path inner) :
  e.IsWithin path
  := by
  obtain ⟨field, hfield, hwithin⟩ := h
  exact ⟨field, hfield, hinner.trans hwithin⟩

/-- An error about a field is not about the fork. -/
theorem RecordError.IsWithin.kind_ne {e : RecordError} {path : String} (h : e.IsWithin path) :
  e.kind ≠ .version
  := by
  obtain ⟨field, hfield, -⟩ := h
  cases e with
  | unsupportedFork fork => cases hfield
  | unknownFork text => cases hfield
  | _ =>
    intro hkind
    cases hkind

namespace Section

variable {s : Section} {name path : String} {value : Json} {e : RecordError}

/-- A number that is not read is reported at its path. -/
theorem isWithin_of_readNumber {bits : Nat} (h : readNumber bits value path = .error e) :
  e.IsWithin path
  := by
  unfold readNumber at h
  split at h
  · split at h
    · cases h
      exact ⟨path, rfl, .self⟩
    · split at h
      · cases h
      · cases h
        exact ⟨path, rfl, .self⟩
  · cases h
    exact ⟨path, rfl, .self⟩

/-- Bytes that are not read are reported at their path. -/
theorem isWithin_of_readBytes (h : readBytes value path = .error e) :
  e.IsWithin path
  := by
  unfold readBytes at h
  split at h
  · split at h
    · cases h
    · cases h
      exact ⟨path, rfl, .self⟩
  · cases h
    exact ⟨path, rfl, .self⟩

/-- Bytes of a fixed number that are not read are reported at their path. -/
theorem isWithin_of_readFixed {n : Nat} (h : readFixed n value path = .error e) :
  e.IsWithin path
  := by
  rcases Except.bind_eq_error_iff.mp h with hbytes | ⟨bytes, -, h⟩
  · apply isWithin_of_readBytes hbytes
  · split at h
    · cases h
    · cases h
      exact ⟨path, rfl, .self⟩

/-- An element that is not read is reported at its path. -/
theorem isWithin_of_readElement {n : Nat} (h : readElement n value path = .error e) :
  e.IsWithin path
  := by
  unfold readElement at h
  split at h
  · cases h
    exact ⟨path, rfl, .self⟩
  · cases h
    exact ⟨path, rfl, .self⟩
  · apply isWithin_of_readFixed h

/-- An element of a list that is not read is reported within the path of the list. -/
theorem isWithin_of_readElements {n index : Nat} {values : List Json}
    (h : readElements n path index values = .error e) :
  e.IsWithin path
  := by
  rw [readElements_eq_mapM, Except.mapM_eq_error_iff] at h
  obtain ⟨_, entry, -, hentry, -⟩ := h
  apply (isWithin_of_readElement hentry).trans
  exact .element entry.2 .self

/-- A member that is missing or is not read is reported within its path. -/
theorem isWithin_of_required_bind {α : Type} {read : Json → Except RecordError α}
    (hread : ∀ value, read value = .error e → e.IsWithin (s.pathOf name))
    (h : s.required name >>= read = .error e) :
  e.IsWithin (s.pathOf name)
  := by
  rcases Except.bind_eq_error_iff.mp h with hrequired | ⟨value, -, hvalue⟩
  · unfold required at hrequired
    split at hrequired
    · cases hrequired
      exact ⟨_, rfl, .self⟩
    · cases hrequired
      exact ⟨_, rfl, .self⟩
    · cases hrequired
  · apply hread value hvalue

/-- A member that is not read as a list of byte strings is reported within its path. -/
theorem isWithin_of_byteVectors {count n : Nat} (h : s.byteVectors name count n = .error e) :
  e.IsWithin (s.pathOf name)
  := by
  apply isWithin_of_required_bind _ h
  intro value hvalue
  split at hvalue
  · cases hvalue
    exact ⟨_, rfl, .self⟩
  · rcases Except.bind_eq_error_iff.mp hvalue with helements | ⟨elements, -, hcount⟩
    · apply isWithin_of_readElements helements
    · split at hcount
      · cases hcount
      · cases hcount
        exact ⟨_, rfl, .self⟩
  · cases hvalue
    exact ⟨_, rfl, .self⟩

/-- A member that is not read as limited bytes is reported within its path. -/
theorem isWithin_of_byteList {limit : Nat} (h : s.byteList name limit = .error e) :
  e.IsWithin (s.pathOf name)
  := by
  apply isWithin_of_required_bind _ h
  intro value hvalue
  rcases Except.bind_eq_error_iff.mp hvalue with hbytes | ⟨bytes, -, hlength⟩
  · apply isWithin_of_readBytes hbytes
  · split at hlength
    · cases hlength
    · cases hlength
      exact ⟨_, rfl, .self⟩

/-- A value that is no object is reported at its path, unless that is the root. -/
theorem isWithin_of_ofJson (hpath : path ≠ "") (h : ofJson value path = .error e) :
  e.IsWithin path
  := by
  unfold ofJson at h
  split at h
  · cases h
  · cases h
    rw [if_neg hpath]
    exact ⟨path, rfl, .self⟩

end Section

mutual

/-- A member that is not read is reported within its path. -/
theorem Schema.isWithin_of_readMember {name : String} {parent : Section}
    (hname : parent.pathOf name ≠ "") {e : RecordError} :
  (s : Schema) → s.readMember name parent = .error e → e.IsWithin (parent.pathOf name)
  | .uint _, h => by
    apply Section.isWithin_of_required_bind _ h
    intro value hvalue
    apply Section.isWithin_of_readNumber hvalue
  | .bytes _ _, h => by
    apply Section.isWithin_of_required_bind _ h
    intro value hvalue
    apply Section.isWithin_of_readFixed hvalue
  | .byteList _, h => Section.isWithin_of_byteList h
  | .byteVectors _ _, h => Section.isWithin_of_byteVectors h
  | .record fields, h => by
    rcases Except.bind_eq_error_iff.mp h with hchild | ⟨inner, hinner, hfields⟩
    · apply Section.isWithin_of_required_bind _ hchild
      intro value hvalue
      apply Section.isWithin_of_ofJson hname hvalue
    · obtain ⟨members, -, rfl⟩ := Section.child_eq_ok_iff.mp hinner
      apply fields.isWithin_of_read hname hfields

/-- Fields that are not read are reported within the path of their section. -/
theorem Fields.isWithin_of_read {s : Section} (hpath : s.path ≠ "") {e : RecordError} :
  (f : Fields) → f.read s = .error e → e.IsWithin s.path
  | .nil, h => by cases h
  | .cons name schema rest, h => by
    rcases Except.bind_eq_error_iff.mp h with hvalue | ⟨value, -, h⟩
    · have hname := Section.join_ne_empty hpath name
      apply (schema.isWithin_of_readMember hname hvalue).trans
      exact .member name .self
    · rcases Except.bind_eq_error_iff.mp h with hvalues | ⟨_, -, ⟨⟩⟩
      apply rest.isWithin_of_read hpath hvalues

end

/-- A record that is not read is reported within its path, unless that is the root. -/
theorem Layout.isWithin_of_ofJson {α : Type} [Layout α] {json : Json} {path : String}
    (hpath : path ≠ "") {e : RecordError} (h : ofJson α json path = .error e) :
  e.IsWithin path
  := by
  rcases Except.bind_eq_error_iff.mp h with hsection | ⟨s, hs, h⟩
  · apply Section.isWithin_of_ofJson hpath hsection
  · obtain ⟨members, -, rfl⟩ := Section.ofJson_eq_ok_iff.mp hs
    rcases Except.bind_eq_error_iff.mp h with hfields | ⟨_, -, ⟨⟩⟩
    apply (fields α).isWithin_of_read hpath hfields

end BeaconLight

import BeaconLight.Proofs.Record.Section
import BeaconLight.Schema.Document

/-!
# Documents within documents

A document may be the root, or stand at a path of another one. `Section.relocate` says where a
field of it is found then, and reading it there is reading it at the root with the fields in errors
relocated. A reader of a single value is natural in its path, whatever is done to that; a reader of
members and elements is natural in `relocate`, which goes along with the paths of members and
elements that are below the root.
-/

namespace BeaconLight

namespace Section

/-! ### Paths -/

/-- Where a field of a document is found when the document stands at a path. -/
def relocate (path field : String) : String :=
  if field = root then path else path ++ "." ++ field

/-- The path is below the root: it is neither the path of the root nor what the root is named. -/
structure IsBelowRoot (path : String) : Prop where
  ne_empty : path ≠ ""
  ne_root : path ≠ root

instance (path : String) : Decidable (IsBelowRoot path) :=
  decidable_of_iff (path ≠ "" ∧ path ≠ root)
    ⟨fun h => ⟨h.1, h.2⟩, fun h => ⟨h.ne_empty, h.ne_root⟩⟩

theorem relocate_eq {path field : String} (h : IsBelowRoot field) :
  relocate path field = path ++ "." ++ field
  := if_neg h.ne_root

/-- Members of an object below the root are below it. -/
theorem IsBelowRoot.join {path : String} (h : IsBelowRoot path) (name : String) :
  IsBelowRoot (join path name)
  := by
  rw [Section.join, if_neg h.ne_empty]
  constructor
  · simp
  · intro hroot
    have hdot : '.' ∈ (path ++ "." ++ name).toList := by simp
    rw [hroot] at hdot
    exact absurd hdot (by decide)

/-- Elements are below the root. -/
theorem isBelowRoot_element (path : String) (index : Nat) :
  IsBelowRoot (element path index)
  := by
  rw [element]
  constructor
  · simp
  · intro hroot
    have hbracket : '[' ∈ (path ++ "[" ++ Text.decimal index ++ "]").toList := by simp
    rw [hroot] at hbracket
    exact absurd hbracket (by decide)

theorem join_relocate {path inner : String} (h : IsBelowRoot inner) (name : String) :
  join (relocate path inner) name = relocate path (join inner name)
  := by
  rw [relocate_eq (h.join name), relocate_eq h, join, join, if_neg (by simp), if_neg h.ne_empty]
  simp only [String.append_assoc]

theorem element_relocate {path inner : String} (h : IsBelowRoot inner) (index : Nat) :
  element (relocate path inner) index = relocate path (element inner index)
  := by
  rw [relocate_eq (isBelowRoot_element inner index), relocate_eq h, element, element]
  simp only [String.append_assoc]

theorem join_eq_relocate {path name : String} (hpath : path ≠ "") (h : IsBelowRoot name) :
  join path name = relocate path name
  := by rw [relocate_eq h, join, if_neg hpath]

end Section

/-- The error with its field relocated. -/
abbrev RecordError.relocate (path : String) : RecordError → RecordError :=
  RecordError.mapField (Section.relocate path)

namespace Section

/-! ### Single values -/

variable {value : Json} {inner : String}

/-- A number is read at another path with that path in the error. -/
theorem readNumber_map (g : String → String) (bits : Nat) :
  readNumber bits value (g inner) = (readNumber bits value inner).mapError (.mapField g)
  := by
  unfold readNumber
  split
  · split
    · rfl
    · split
      · rfl
      · rfl
  · rfl

/-- Bytes are read at another path with that path in the error. -/
theorem readBytes_map (g : String → String) :
  readBytes value (g inner) = (readBytes value inner).mapError (.mapField g)
  := by
  unfold readBytes
  split
  · split
    · rfl
    · rfl
  · rfl

theorem readFixed_map (g : String → String) (n : Nat) :
  readFixed n value (g inner) = (readFixed n value inner).mapError (.mapField g)
  := by
  apply Except.bind_eq_mapError (readBytes_map g)
  intro bytes
  split
  · rfl
  · rfl

theorem readElement_map (g : String → String) (n : Nat) :
  readElement n value (g inner) = (readElement n value inner).mapError (.mapField g)
  := by
  unfold readElement
  split
  · rfl
  · rfl
  · apply readFixed_map

/-! ### Members -/

variable {path p p' name : String} {members : Json.Members}

/-- The elements of a list are read where the list is relocated to. -/
theorem readElements_relocate (h : IsBelowRoot inner) (n index : Nat) (values : List Json) :
  readElements n (relocate path inner) index values
    = (readElements n inner index values).mapError (.relocate path)
  := by
  rw [readElements_eq_mapM, readElements_eq_mapM]
  apply Except.mapM_eq_mapError
  intro entry
  rw [element_relocate h, readElement_map]

theorem required_relocate (h : join p' name = relocate path (join p name)) :
  required ⟨p', members⟩ name = (required ⟨p, members⟩ name).mapError (.relocate path)
  := by
  simp only [required, pathOf, h]
  split
  · rfl
  · rfl
  · rfl

theorem required_bind_relocate {α : Type} {read read' : Json → Except RecordError α}
    (h : join p' name = relocate path (join p name))
    (hread : ∀ value, read' value = (read value).mapError (.relocate path)) :
  required ⟨p', members⟩ name >>= read'
    = (required ⟨p, members⟩ name >>= read).mapError (.relocate path)
  := Except.bind_eq_mapError (required_relocate h) hread

/-- A member is read as limited bytes where it is relocated to. -/
theorem byteList_relocate (h : join p' name = relocate path (join p name)) (limit : Nat) :
  byteList ⟨p', members⟩ name limit
    = (byteList ⟨p, members⟩ name limit).mapError (.relocate path)
  := by
  apply required_bind_relocate h
  intro value
  simp only [pathOf, h]
  apply Except.bind_eq_mapError (readBytes_map _)
  intro bytes
  split
  · rfl
  · rfl

/-- A member is read as a list of byte strings where it is relocated to. -/
theorem byteVectors_relocate (h : join p' name = relocate path (join p name))
    (hbelow : IsBelowRoot (join p name)) (count n : Nat) :
  byteVectors ⟨p', members⟩ name count n
    = (byteVectors ⟨p, members⟩ name count n).mapError (.relocate path)
  := by
  apply required_bind_relocate h
  intro value
  simp only [pathOf, h]
  split
  · rfl
  · apply Except.bind_eq_mapError (readElements_relocate hbelow n 0 _)
    intro elements
    split
    · rfl
    · rfl
  · rfl

end Section

/-! ### Records -/

section Records

variable {path : String}

mutual

/-- A member is read where it is relocated to. -/
theorem Schema.readMember_relocate {p p' name : String} {members : Json.Members}
    (h : Section.join p' name = Section.relocate path (Section.join p name))
    (hbelow : Section.IsBelowRoot (Section.join p name)) :
  (s : Schema) → s.readMember name ⟨p', members⟩
    = (s.readMember name ⟨p, members⟩).mapError (.relocate path)
  | .uint width => by
    apply Section.required_bind_relocate h
    intro value
    rw [Section.pathOf, h]
    apply Section.readNumber_map
  | .bytes size _ => by
    apply Section.required_bind_relocate h
    intro value
    rw [Section.pathOf, h]
    apply Section.readFixed_map
  | .byteList limit => Section.byteList_relocate h limit
  | .byteVectors count size => Section.byteVectors_relocate h hbelow count size
  | .record fields => by
    rw [Schema.readMember, Schema.readMember, Section.child, Section.child, bind_assoc, bind_assoc]
    apply Section.required_bind_relocate h
    intro value
    cases value with
    | object inner =>
      show fields.read ⟨Section.join p' name, inner⟩
        = (fields.read ⟨Section.join p name, inner⟩).mapError _
      rw [h]
      apply fields.read_relocate
      intro other _
      exact ⟨Section.join_relocate hbelow other, hbelow.join other⟩
    | _ =>
      show Except.error (RecordError.wrongType _ _) = Except.error (RecordError.wrongType _ _)
      rw [Section.pathOf, Section.pathOf, h, if_neg, if_neg hbelow.ne_empty]
      rw [Section.relocate_eq hbelow]
      simp

/-- Fields are read where their section is relocated to. -/
theorem Fields.read_relocate {p p' : String} {members : Json.Members} :
  (f : Fields) →
    (∀ name ∈ f.names, Section.join p' name = Section.relocate path (Section.join p name) ∧
      Section.IsBelowRoot (Section.join p name)) →
    f.read ⟨p', members⟩ = (f.read ⟨p, members⟩).mapError (.relocate path)
  | .nil, _ => rfl
  | .cons name schema rest, h => by
    obtain ⟨⟨hname, hbelow⟩, hrest⟩ := List.forall_mem_cons.mp h
    apply Except.bind_eq_mapError (schema.readMember_relocate hname hbelow)
    intro value
    apply Except.bind_eq_mapError (rest.read_relocate hrest)
    intro values
    rfl

end

/-- A record whose fields have names below the root is read at a path as at the root, with the
fields in errors relocated. -/
theorem Layout.ofJson_relocate {α : Type} [Layout α] {value : Json} (hpath : path ≠ "")
    (hnames : ∀ name ∈ (fields α).names, Section.IsBelowRoot name) :
  ofJson α value path = (ofJson α value "").mapError (.relocate path)
  := by
  cases value with
  | object members =>
    have hread : (fields α).read ⟨path, members⟩
        = ((fields α).read ⟨"", members⟩).mapError (.relocate path) := by
      apply Fields.read_relocate
      intro name hname
      have hbelow := hnames name hname
      exact ⟨Section.join_eq_relocate hpath hbelow, hbelow⟩
    apply Except.bind_eq_mapError hread
    intro values
    rfl
  | _ =>
    show Except.error (RecordError.wrongType _ _) = Except.error (RecordError.wrongType _ _)
    rw [if_neg hpath]
    rfl

end Records

end BeaconLight

import BeaconLight.Proofs.Json.Canonical
import BeaconLight.Proofs.Record.Section
import BeaconLight.Schema.Document

/-!
# Reading canonical forms

The canonical form of a JSON value is read as the value is, with the same errors: a reader of a
single value looks at nothing that the canonical form changes, and a reader of members looks only
at what is found under names. So what is read off a document depends on its canonical form alone.
-/

namespace BeaconLight

namespace Section

/-! ### Single values -/

theorem readNumber_canonical (bits : Nat) (value : Json) (path : String) :
  readNumber bits value.canonical path = readNumber bits value path
  := by
  cases value
  all_goals rfl

theorem readBytes_canonical (value : Json) (path : String) :
  readBytes value.canonical path = readBytes value path
  := by
  cases value
  all_goals rfl

theorem readFixed_canonical (n : Nat) (value : Json) (path : String) :
  readFixed n value.canonical path = readFixed n value path
  := by rw [readFixed, readFixed, readBytes_canonical]

theorem readElement_canonical (n : Nat) (value : Json) (path : String) :
  readElement n value.canonical path = readElement n value path
  := by
  cases value
  all_goals rfl

/-- The elements of a list are read off their canonical forms as off the list. -/
theorem readElements_canonicalItems (n : Nat) (path : String) (index : Nat) (items : List Json) :
  readElements n path index (Json.canonicalItems items) = readElements n path index items
  := by
  induction items generalizing index with
  | nil => rfl
  | cons item rest ih =>
    rw [Json.canonicalItems, readElements, readElements, readElement_canonical, ih]

/-! ### Members -/

variable {path name : String} {members members' : Json.Members}

/-- A member that has to be there is in canonical form when what is found there is. -/
theorem required_canonical
    (h : Json.find? name members' = (Json.find? name members).map Json.canonical) :
  required ⟨path, members'⟩ name = (required ⟨path, members⟩ name).map Json.canonical
  := by
  rw [required, required, h]
  cases Json.find? name members with
  | none => rfl
  | some value =>
    cases value
    all_goals rfl

/-- A member is read off its canonical form when a value is. -/
theorem required_bind_canonical {α : Type} {read : Json → Except RecordError α}
    (h : Json.find? name members' = (Json.find? name members).map Json.canonical)
    (hread : ∀ value : Json, read value.canonical = read value) :
  required ⟨path, members'⟩ name >>= read = required ⟨path, members⟩ name >>= read
  := by
  rw [required_canonical h]
  cases required ⟨path, members⟩ name with
  | error e => rfl
  | ok value => apply hread

/-- A member is read as a list of byte strings off its canonical form. -/
theorem byteVectors_canonical
    (h : Json.find? name members' = (Json.find? name members).map Json.canonical)
    (count n : Nat) :
  byteVectors ⟨path, members'⟩ name count n = byteVectors ⟨path, members⟩ name count n
  := by
  apply required_bind_canonical h
  intro value
  cases value with
  | array items =>
    cases items with
    | nil => rfl
    | cons item rest =>
      have helements := readElements_canonicalItems n (join path name) 0 (item :: rest)
      rw [Json.canonicalItems] at helements
      simp only [Json.canonical, Json.canonicalItems, pathOf, helements]
  | _ => rfl

end Section

/-! ### Records -/

mutual

/-- A member is read off its canonical form. -/
theorem Schema.readMember_canonical {path name : String} {members members' : Json.Members}
    (h : Json.find? name members' = (Json.find? name members).map Json.canonical) :
  (s : Schema) → s.readMember name ⟨path, members'⟩ = s.readMember name ⟨path, members⟩
  | .uint _ => by
    apply Section.required_bind_canonical h
    intro value
    apply Section.readNumber_canonical
  | .bytes size _ => by
    apply Section.required_bind_canonical h
    intro value
    apply Section.readFixed_canonical
  | .byteList limit => by
    apply Section.required_bind_canonical h
    intro value
    rw [Section.readBytes_canonical]
  | .byteVectors count size => Section.byteVectors_canonical h count size
  | .record fields => by
    rw [Schema.readMember, Schema.readMember, Section.child, Section.child, bind_assoc, bind_assoc]
    apply Section.required_bind_canonical h
    intro value
    cases value with
    | object inner =>
      apply fields.read_canonical
      intro other
      apply Json.find?_sorted_canonicalMembers
    | _ => rfl

theorem Fields.read_canonical {path : String} {members members' : Json.Members}
    (h : ∀ name, Json.find? name members' = (Json.find? name members).map Json.canonical) :
  (f : Fields) → f.read ⟨path, members'⟩ = f.read ⟨path, members⟩
  | .nil => rfl
  | .cons name schema rest => by
    rw [Fields.read, Fields.read, schema.readMember_canonical (h name), rest.read_canonical h]

end

/-- A record is read off the canonical form of a value as off the value. -/
theorem Layout.ofJson_canonical {α : Type} [Layout α] (value : Json) (path : String) :
  ofJson α value.canonical path = ofJson α value path
  := by
  cases value with
  | object members =>
    have hread : (fields α).read ⟨path, Json.sorted (Json.canonicalMembers members)⟩
        = (fields α).read ⟨path, members⟩ := by
      apply Fields.read_canonical
      intro name
      apply Json.find?_sorted_canonicalMembers
    show (fields α).read _ >>= _ = (fields α).read _ >>= _
    rw [hread]
  | _ => rfl

end BeaconLight

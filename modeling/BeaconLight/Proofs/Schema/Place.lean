import BeaconLight.Proofs.Json.Members
import BeaconLight.Proofs.Schema.Blame
import BeaconLight.Proofs.Schema.Document

/-!
# Places in a document

A `Schema.Place` is a place in the documents of a schema below the root: a field of a record at
any depth, or an element of a list. It has a path, it can be changed in a document (`put`), it can
be set in a value (`set`), and what is found there can be read (`read`).

When a document that is read is changed at one place, it is read as what is now at that place,
put there (`readMember_put`). So whatever goes wrong then goes wrong at that place, and whatever
does not leaves the rest of the value as it was: the document of a value with something put at a
place differs there and nowhere else (`toJson_set`).
-/

namespace BeaconLight

/-! ### Fields of a record -/

/-- A field of a record: where it stands among the fields, with its name and schema. -/
inductive Fields.Slot : Fields → String → Schema → Type
  | here {name : String} {schema : Schema} {rest : Fields} :
    Slot (.cons name schema rest) name schema
  | there {name other : String} {schema first : Schema} {rest : Fields}
    (slot : Slot rest name schema) : Slot (.cons other first rest) name schema

namespace Fields.Slot

variable {f : Fields} {name : String} {schema : Schema}

/-- The value of a field. -/
def get : {f : Fields} → f.Slot name schema → f.Values → schema.Value
  | _, .here, (value, _) => value
  | _, .there slot, (_, values) => slot.get values

/-- Puts a value at a field. -/
def set : {f : Fields} → f.Slot name schema → schema.Value → f.Values → f.Values
  | _, .here, value, (_, values) => (value, values)
  | _, .there slot, value, (first, values) => (first, slot.set value values)

theorem mem_names (slot : f.Slot name schema) :
  name ∈ f.names
  := by
  induction slot with
  | here => exact List.mem_cons_self
  | there slot ih => exact List.mem_cons_of_mem _ ih

theorem readMember_of_read (slot : f.Slot name schema) {s : Section} {values : f.Values}
    (h : f.read s = .ok values) :
  schema.readMember name s = .ok (slot.get values)
  := by
  induction slot with
  | here => exact (Fields.read_cons_eq_ok_iff.mp h).1
  | there slot ih => exact ih (Fields.read_cons_eq_ok_iff.mp h).2

/-- When the members of a section differ in what is found under one name, its fields are read as
the field of that name is, with the value put there. -/
theorem read_of_find?_eq (slot : f.Slot name schema) (hf : f.names.Nodup) {path : String}
    {members members' : Json.Members} {values : f.Values} (h : f.read ⟨path, members⟩ = .ok values)
    (hothers : ∀ other, other ≠ name → Json.find? other members' = Json.find? other members) :
  f.read ⟨path, members'⟩
    = (schema.readMember name ⟨path, members'⟩).map fun value => slot.set value values
  := by
  induction slot with
  | @here name schema rest =>
    obtain ⟨value, values⟩ := values
    obtain ⟨hname, -⟩ := List.nodup_cons.mp hf
    obtain ⟨-, hrest⟩ := Fields.read_cons_eq_ok_iff.mp h
    have hrest' : rest.read ⟨path, members'⟩ = .ok values := by
      rw [← hrest]
      apply rest.read_congr
      intro other hother
      apply hothers
      rintro rfl
      exact hname hother
    rw [Fields.read, hrest']
    cases schema.readMember name ⟨path, members'⟩ with
    | error e => rfl
    | ok value' => rfl
  | @there name other schema first rest slot ih =>
    obtain ⟨value, values⟩ := values
    obtain ⟨hother, hnames⟩ := List.nodup_cons.mp hf
    obtain ⟨hfirst, hrest⟩ := Fields.read_cons_eq_ok_iff.mp h
    have hne : other ≠ name := by
      rintro rfl
      exact hother slot.mem_names
    have hfirst' : first.readMember other ⟨path, members'⟩ = .ok value := by
      rw [← hfirst]
      apply first.readMember_congr (hothers other hne)
    rw [Fields.read, hfirst', ih hnames hrest hothers]
    cases schema.readMember name ⟨path, members'⟩ with
    | error e => rfl
    | ok value' => rfl

end Fields.Slot

/-! ### Places -/

/-- A place inside the values of a schema: a field of a record, at any depth, or an element of a
list. -/
inductive Schema.Place : Schema → Type
  | field {fields : Fields} {name : String} {schema : Schema} (slot : fields.Slot name schema) :
    Place (.record fields)
  | inside {fields : Fields} {name : String} {schema : Schema} (slot : fields.Slot name schema)
    (p : Place schema) : Place (.record fields)
  | element {count size : Nat} (index : Fin count) : Place (.byteVectors count size)

namespace Schema.Place

/-- The path of a place in the value at a path. -/
def path : {s : Schema} → s.Place → String → String
  | _, @field _ name _ _, base => Section.join base name
  | _, @inside _ name _ _ p, base => p.path (Section.join base name)
  | _, element index, base => Section.element base index

/-- The place is a field, and not an element of a list. -/
def isField : {s : Schema} → s.Place → Bool
  | _, field _ => true
  | _, inside _ p => p.isField
  | _, element _ => false

/-- The type of what is at a place. -/
def Component : {s : Schema} → s.Place → Type
  | _, @field _ _ schema _ => schema.Value
  | _, inside _ p => p.Component
  | _, @element _ size _ => Bytes size

/-- Puts something at a place of a value. -/
def set : {s : Schema} → (p : s.Place) → p.Component → s.Value → s.Value
  | _, field slot, component, values => slot.set component values
  | _, inside slot p, component, values => slot.set (p.set component (slot.get values)) values
  | _, element index, component, elements => Sized.set elements index component

/-- Puts a JSON value at a place of a document, or takes away what is there. -/
def put : {s : Schema} → s.Place → Option Json → Json → Json
  | _, @field _ name _ _, some value, .object members =>
    .object (Json.modify name (fun _ => value) members)
  | _, @field _ name _ _, none, .object members => .object (Json.erase name members)
  | _, @inside _ name _ _ p, found, .object members =>
    .object (Json.modify name (p.put found) members)
  | _, element index, some value, .array items => .array (items.set index value)
  | _, element index, none, .array items => .array (items.eraseIdx index)
  | _, _, _, json => json

/-- Reads what is found at a place of the value at a path. -/
def read : {s : Schema} → (p : s.Place) → Option Json → String → Except RecordError p.Component
  | _, @field _ name schema _, found, base =>
    schema.readMember name ⟨base, found.toList.map fun value => (name, value)⟩
  | _, @inside _ name _ _ p, found, base => p.read found (Section.join base name)
  | _, @element _ size index, some value, base =>
    Section.readElement size value (Section.element base index)
  | _, element index, none, base => .error (.missing (Section.element base index))

end Schema.Place

/-! ### Reading after a change -/

/-- A field of readable fields is readable. -/
theorem Fields.Slot.isReadable {f : Fields} {name : String} {schema : Schema}
    (slot : f.Slot name schema) (hf : f.areReadable = true) :
  schema.isReadable = true
  := by
  induction slot with
  | here =>
    rw [Fields.areReadable, Bool.and_eq_true] at hf
    exact hf.1
  | there slot ih =>
    rw [Fields.areReadable, Bool.and_eq_true] at hf
    exact ih hf.2

namespace Schema.Place

/-- A change at a field of an object changes what is found under its name and nothing else. -/
theorem put_field {f : Fields} {name : String} {schema : Schema} (slot : f.Slot name schema)
    {members : Json.Members} {value : Json} (h : Json.find? name members = some value)
    (found : Option Json) :
  ∃ members', (field slot).put found (.object members) = .object members' ∧
    Json.find? name members' = found ∧
    ∀ other, other ≠ name → Json.find? other members' = Json.find? other members
  := by
  cases found with
  | none =>
    refine ⟨Json.erase name members, rfl, Json.find?_erase name members, ?_⟩
    intro other hother
    apply Json.find?_erase_of_ne hother
  | some value' =>
    refine ⟨Json.modify name (fun _ => value') members, rfl, ?_, ?_⟩
    · rw [Json.find?_modify, h, Option.map_some]
    · intro other hother
      apply Json.find?_modify_of_ne hother

/-- When a document that is read is changed at a place, it is read as what is now at that place,
put there. -/
theorem readMember_put {s : Schema} (p : s.Place) (hs : s.isReadable = true)
    {found : Option Json} (hfound : p.isField = true ∨ found.isSome = true)
    {path name : String} {members members' : Json.Members} {json : Json} {x : s.Value}
    (h : s.readMember name ⟨path, members⟩ = .ok x)
    (hjson : Json.find? name members = some json)
    (hjson' : Json.find? name members' = some (p.put found json)) :
  s.readMember name ⟨path, members'⟩
    = (p.read found (Section.join path name)).map fun component => p.set component x
  := by
  -- On the way in, only what is found under the name of the slot changes, so each record reads its
  -- other fields as before and the place inside decides.
  induction p generalizing path name members members' json with
  | @field fields key schema slot =>
    rw [Schema.isReadable, Bool.and_eq_true, decide_eq_true_eq] at hs
    obtain ⟨inner, hinner, hread⟩ := Schema.readMember_record_eq_ok_iff.mp h
    obtain rfl := Option.some.inj (hjson.symm.trans hinner)
    obtain ⟨value, hvalue, -⟩ := (schema.readMember_eq_ok_iff _).mp (slot.readMember_of_read hread)
    obtain ⟨inner', hput, hkey, hothers⟩ := put_field slot hvalue found
    rw [hput] at hjson'
    apply (Schema.readMember_record hjson').trans
    apply (slot.read_of_find?_eq hs.1 hread hothers).trans
    apply congrArg (Except.map _)
    apply schema.readMember_congr
    rw [hkey, Json.find?_toList_map]
  | @inside fields key schema slot p ih =>
    rw [Schema.isReadable, Bool.and_eq_true, decide_eq_true_eq] at hs
    obtain ⟨inner, hinner, hread⟩ := Schema.readMember_record_eq_ok_iff.mp h
    obtain rfl := Option.some.inj (hjson.symm.trans hinner)
    have hslot := slot.readMember_of_read hread
    obtain ⟨value, hvalue, -⟩ := (schema.readMember_eq_ok_iff _).mp hslot
    have hkey : Json.find? key (Json.modify key (p.put found) inner)
        = some (p.put found value) := by
      rw [Json.find?_modify, hvalue, Option.map_some]
    apply (Schema.readMember_record hjson').trans
    apply (slot.read_of_find?_eq hs.1 hread _).trans
    · rw [ih (slot.isReadable hs.2) hfound hslot hvalue hkey]
      apply Except.map_map
    · intro other hother
      apply Json.find?_modify_of_ne hother
  | @element count size index =>
    obtain ⟨items, hitems, -⟩ := Section.byteVectors_eq_ok_iff.mp h
    obtain rfl := Option.some.inj (hjson.symm.trans hitems)
    cases found with
    | none =>
      rcases hfound with h | h
      all_goals cases h
    | some value => exact Section.byteVectors_set h hjson index value hjson'

end Schema.Place

/-- A change inside an object leaves an object. -/
theorem Schema.Place.put_object {f : Fields} (p : (Schema.record f).Place) (found : Option Json)
    (members : Json.Members) :
  ∃ members', p.put found (.object members) = .object members'
  := by
  cases p with
  | field slot =>
    cases found with
    | none => exact ⟨_, rfl⟩
    | some value => exact ⟨_, rfl⟩
  | inside slot p => exact ⟨_, rfl⟩

/-- When fields that are read are changed at a place, they are read as what is now at that place,
put there. -/
theorem Fields.read_put {f : Fields} (p : (Schema.record f).Place)
    (hf : (Schema.record f).isReadable = true) {found : Option Json}
    (hfound : p.isField = true ∨ found.isSome = true) {path : String} {members : Json.Members}
    {values : f.Values} (h : f.read ⟨path, members⟩ = .ok values) :
  ∃ members', p.put found (.object members) = .object members' ∧
    f.read ⟨path, members'⟩ = (p.read found path).map fun component => p.set component values
  := by
  -- An object at a path is read like the member of that name of an object at the root.
  have hroot (inner : Json.Members) :
      (Schema.record f).readMember path ⟨"", [(path, .object inner)]⟩ = f.read ⟨path, inner⟩ := by
    apply (Schema.readMember_record (Json.find?_toList_map path (some (.object inner)))).trans
    rw [Section.join, if_pos rfl]
  obtain ⟨members', hput⟩ := p.put_object found members
  refine ⟨members', hput, ?_⟩
  have h' := p.readMember_put hf hfound ((hroot members).trans h)
    (Json.find?_toList_map path (some _))
    (Json.find?_toList_map path (some (p.put found (.object members))))
  rw [hput] at h'
  apply (hroot members').symm.trans
  apply h'.trans
  rw [Section.join, if_pos rfl]

/-- When a record that is read is changed at a place of its document, it is read as what is now at
that place, put there. -/
theorem Layout.ofJson_put {α : Type} [Layout α] (p : (schema α).Place)
    (hα : (schema α).isReadable = true) {found : Option Json}
    (hfound : p.isField = true ∨ found.isSome = true) {json : Json} {path : String} {x : α}
    (h : ofJson α json path = .ok x) :
  ofJson α (p.put found json) path
    = (p.read found path).map fun component => ofValues (p.set component (toValues x))
  := by
  obtain ⟨inner, hinner, h⟩ := Except.bind_eq_ok_iff.mp h
  obtain ⟨members, rfl, rfl⟩ := Section.ofJson_eq_ok_iff.mp hinner
  obtain ⟨values, hvalues, hx⟩ := Except.bind_eq_ok_iff.mp h
  obtain rfl := Except.ok.inj hx
  obtain ⟨members', hput, hread⟩ := Fields.read_put p hα hfound hvalues
  rw [hput, toValues_ofValues]
  show (do
    let values ← (fields α).read ⟨path, members'⟩
    return ofValues values) = _
  rw [hread]
  cases p.read found path with
  | error e => rfl
  | ok component => rfl

/-! ### Documents of changed values -/

/-- When a field is set, the member of its name changes as its value does, and no other. -/
theorem Fields.Slot.toMembers_set {f : Fields} {name : String} {schema : Schema}
    (slot : f.Slot name schema) (hf : f.names.Nodup) {value : schema.Value} {values : f.Values}
    {change : Json → Json}
    (hchange : change (schema.toJson (slot.get values)) = schema.toJson value) :
  f.toMembers (slot.set value values) = Json.modify name change (f.toMembers values)
  := by
  induction slot with
  | @here name schema rest =>
    obtain ⟨first, values⟩ := values
    obtain ⟨hname, -⟩ := List.nodup_cons.mp hf
    have hrest : name ∉ (rest.toMembers values).map Prod.fst := by
      rwa [rest.map_fst_toMembers]
    show (name, schema.toJson value) :: rest.toMembers values
      = Json.modify name change ((name, schema.toJson first) :: rest.toMembers values)
    rw [Json.modify, List.map_cons, if_pos rfl, ← Json.modify, Json.modify_of_notMem hrest]
    exact congrArg (fun json => (name, json) :: _) hchange.symm
  | @there name other schema first rest slot ih =>
    obtain ⟨value', values⟩ := values
    obtain ⟨hother, hnames⟩ := List.nodup_cons.mp hf
    have hne : other ≠ name := by
      rintro rfl
      exact hother slot.mem_names
    show (other, first.toJson value') :: rest.toMembers (slot.set value values)
      = Json.modify name change ((other, first.toJson value') :: rest.toMembers values)
    rw [ih hnames hchange, Json.modify, Json.modify, List.map_cons, if_neg hne]

namespace Schema.Place

/-- What is at a place as JSON. -/
def toJson : {s : Schema} → (p : s.Place) → p.Component → Json
  | _, @field _ _ schema _, value => schema.toJson value
  | _, inside _ p, component => p.toJson component
  | _, @element _ size _, component => .string (Hex.encode (show Bytes size from component).val)

/-- When something is put at a place of a value, its document changes there and nowhere else. -/
theorem toJson_set {s : Schema} (p : s.Place) (hs : s.isReadable = true) (component : p.Component)
    (x : s.Value) :
  s.toJson (p.set component x) = p.put (some (p.toJson component)) (s.toJson x)
  := by
  induction p with
  | @field fields name schema slot =>
    rw [Schema.isReadable, Bool.and_eq_true, decide_eq_true_eq] at hs
    have hmembers : fields.toMembers (slot.set component x)
        = Json.modify name (fun _ => schema.toJson component) (fields.toMembers x) :=
      slot.toMembers_set hs.1 rfl
    exact congrArg Json.object hmembers
  | inside slot p ih =>
    rw [Schema.isReadable, Bool.and_eq_true, decide_eq_true_eq] at hs
    have hinner := ih (slot.isReadable hs.2) component (slot.get x)
    exact congrArg Json.object (slot.toMembers_set hs.1 hinner.symm)
  | @element count size index =>
    let render (bytes : Bytes size) : Json := .string (Hex.encode bytes.val)
    have hitems : (x.val.set index component).map render
        = (x.val.map render).set index (render component) := List.map_set
    exact congrArg Json.array hitems

end Schema.Place

/-- When something is put at a place of a record, its document changes there and nowhere else. -/
theorem Layout.toJson_set {α : Type} [Layout α] (p : (schema α).Place)
    (hα : (schema α).isReadable = true) (component : p.Component) (x : α) :
  toJson (ofValues (p.set component (toValues x)) : α)
    = p.put (some (p.toJson component)) (toJson x)
  := by
  have hvalues : toValues (ofValues (p.set component (toValues x)) : α)
      = p.set component (toValues x) := toValues_ofValues _
  rw [toJson, hvalues]
  exact p.toJson_set hα component (toValues x)

/-! ### What goes wrong at a place -/

/-- A field whose member is not there is missing. -/
theorem Schema.readMember_missing (s : Schema) {path name : String} {members : Json.Members}
    (h : Json.find? name members = none ∨ Json.find? name members = some .null) :
  s.readMember name ⟨path, members⟩ = .error (.missing (Section.join path name))
  := by
  have hrequired : Section.required ⟨path, members⟩ name
      = .error (.missing (Section.join path name)) := by
    rw [Section.required]
    rcases h with h | h
    · rw [h]
      rfl
    · rw [h]
      rfl
  cases s with
  | uint width => exact congrArg (· >>= _) hrequired
  | bytes size style => exact congrArg (· >>= _) hrequired
  | byteList limit => exact congrArg (· >>= _) hrequired
  | byteVectors count size => exact congrArg (· >>= _) hrequired
  | record fields => exact congrArg (fun found => (found >>= _) >>= fields.read) hrequired

namespace Schema.Place

theorem path_ne_empty {s : Schema} (p : s.Place) {base : String} (hbase : base ≠ "") :
  p.path base ≠ ""
  := by
  induction p generalizing base with
  | field slot => apply Section.join_ne_empty hbase
  | inside slot p ih => exact ih (Section.join_ne_empty hbase _)
  | element index => apply Section.element_ne_empty

/-- The path of a place in a record is not empty when each field has a name. -/
theorem path_ne_empty_of_names {f : Fields} (hf : "" ∉ f.names) (p : (Schema.record f).Place)
    (base : String) :
  p.path base ≠ ""
  := by
  have hjoin {name : String} {schema : Schema} (slot : f.Slot name schema) :
      Section.join base name ≠ "" := by
    apply Section.join_ne_empty_of_name
    rintro rfl
    exact hf slot.mem_names
  cases p with
  | field slot => exact hjoin slot
  | inside slot p => exact p.path_ne_empty (hjoin slot)

theorem read_none {s : Schema} (p : s.Place) (base : String) :
  p.read none base = .error (.missing (p.path base))
  := by
  induction p generalizing base with
  | @field fields name schema slot => exact schema.readMember_missing (.inl rfl)
  | inside slot p ih => exact ih _
  | element index => rfl

theorem read_null {s : Schema} (p : s.Place) (base : String) :
  p.read (some .null) base = .error (.missing (p.path base))
  := by
  induction p generalizing base with
  | @field fields name schema slot => exact schema.readMember_missing (.inr (if_pos rfl))
  | inside slot p ih => exact ih _
  | element index => rfl

theorem read_empty {s : Schema} (p : s.Place) (hp : p.isField = false) (base : String) :
  p.read (some (.string "")) base = .error (.missing (p.path base))
  := by
  induction p generalizing base with
  | field slot => cases hp
  | inside slot p ih => exact ih hp _
  | element index => rfl

/-- What is not read at a place is reported within its path. -/
theorem isWithin_of_read {s : Schema} (p : s.Place) {found : Option Json} {base : String}
    (hpath : p.path base ≠ "") {e : RecordError} (h : p.read found base = .error e) :
  e.IsWithin (p.path base)
  := by
  induction p generalizing base with
  | @field fields name schema slot =>
    have hname : Section.pathOf ⟨base, found.toList.map fun value => (name, value)⟩ name ≠ "" :=
      hpath
    exact schema.isWithin_of_readMember hname h
  | inside slot p ih => exact ih hpath h
  | element index =>
    cases found with
    | none =>
      cases h
      exact ⟨_, rfl, .self⟩
    | some value => exact Section.isWithin_of_readElement h

end Schema.Place

end BeaconLight

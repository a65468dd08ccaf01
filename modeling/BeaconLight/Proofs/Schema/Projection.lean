import BeaconLight.Proofs.Schema.Reading

/-!
# Projections of schemas

A projection takes the values of a schema to those of a poorer one. Of the fields of a record it
keeps some, in their order, and drops the others, and what it keeps it may project in turn.

A reader looks at no members but those that its schema names. So a JSON value that stands for a
value of a schema stands for the projected value of the poorer one.
-/

namespace BeaconLight

mutual

/-- A way from the values of a schema to those of a poorer one. -/
inductive Schema.Projection : Schema → Schema → Type
  | same {s : Schema} : Schema.Projection s s
  | record {f g : Fields} (p : Fields.Projection f g) :
    Schema.Projection (.record f) (.record g)

/-- Fields of a record that are kept, each with a projection of its values. -/
inductive Fields.Projection : Fields → Fields → Type
  | nil : Fields.Projection .nil .nil
  | keep {name : String} {s t : Schema} {f g : Fields} (p : Schema.Projection s t)
    (rest : Fields.Projection f g) : Fields.Projection (.cons name s f) (.cons name t g)
  | drop {name : String} {s : Schema} {f g : Fields} (rest : Fields.Projection f g) :
    Fields.Projection (.cons name s f) g

end

mutual

/-- The projection of a value. -/
def Schema.Projection.apply : {s t : Schema} → s.Projection t → s.Value → t.Value
  | _, _, .same, value => value
  | _, _, .record p, values => p.apply values

/-- The projection of the values of fields. -/
def Fields.Projection.apply : {f g : Fields} → f.Projection g → f.Values → g.Values
  | _, _, .nil, values => values
  | _, _, .keep p rest, (value, values) => (p.apply value, rest.apply values)
  | _, _, .drop rest, (_, values) => rest.apply values

end

/-- The projection that drops all fields. -/
def Fields.Projection.none : (f : Fields) → f.Projection .nil
  | .nil => .nil
  | .cons _ _ rest => .drop (none rest)

mutual

theorem Schema.Projection.denotes {json : Json} :
  {s t : Schema} → (p : s.Projection t) → {value : s.Value} →
    s.Denotes json value → t.Denotes json (p.apply value)
  | _, _, .same, _, h => h
  | _, _, .record p, _, ⟨members, hjson, h⟩ => ⟨members, hjson, p.denote h⟩

/-- Members that stand for the values of fields stand for their projections. -/
theorem Fields.Projection.denote {members : Json.Members} :
  {f g : Fields} → (p : f.Projection g) → {values : f.Values} →
    f.Denote members values → g.Denote members (p.apply values)
  | _, _, .nil, _, h => h
  | _, _, .keep p rest, (_, _), ⟨⟨json, hfind, hvalue⟩, hrest⟩ =>
    ⟨⟨json, hfind, p.denotes hvalue⟩, rest.denote hrest⟩
  | _, _, .drop rest, (_, _), ⟨_, hrest⟩ => rest.denote hrest

end

namespace Layout

variable {α β : Type} [Layout α] [Layout β]

/-- A conversion of records does what a projection of their fields does. -/
def Projects (convert : α → β) : Prop :=
  ∃ p : (fields α).Projection (fields β), ∀ x, toValues (convert x) = p.apply (toValues x)

/-- A JSON value that stands for a record stands for what a projection makes of it. -/
theorem Projects.denotes {convert : α → β} (h : Projects convert) {json : Json} {x : α}
    (hx : (schema α).Denotes json (toValues x)) :
  (schema β).Denotes json (toValues (convert x))
  := by
  obtain ⟨p, hp⟩ := h
  rw [hp]
  apply (Schema.Projection.record p).denotes hx

end Layout

end BeaconLight

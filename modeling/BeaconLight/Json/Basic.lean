import BeaconLight.Json.Number

/-!
# JSON values

A `Json` value keeps the members of an object in the order of the text, repeated names
included. `find?` looks a name up, and the last member of that name is the one that counts.
`canonical` is the value with each object sorted by name and each name kept once.
-/

namespace BeaconLight

/-- A JSON value. -/
inductive Json
  | null
  | bool (value : Bool)
  | number (value : Json.Number)
  | string (value : String)
  | array (items : List Json)
  | object (members : List (String × Json))
  deriving Repr, BEq, Inhabited

namespace Json

/-- The members of an object: names and values in the order of the text. -/
abbrev Members : Type := List (String × Json)

/-- The value of the last member of a name. -/
def find? (name : String) : Members → Option Json
  | [] => none
  | (key, value) :: rest =>
    match find? name rest with
    | some later => some later
    | none => if key = name then some value else none

/-- The members without those of a name. -/
def erase (name : String) (members : Members) : Members :=
  members.filter fun member => member.1 ≠ name

/-- Puts a member among members sorted by name, in place of one of the same name. -/
def insert {α : Type} (name : String) (value : α) : List (String × α) → List (String × α)
  | [] => [(name, value)]
  | (key, old) :: rest =>
    if name < key then (name, value) :: (key, old) :: rest
    else if name = key then (name, value) :: rest
    else (key, old) :: insert name value rest

/-- Members sorted by name; of several of one name the last stays. -/
def sorted {α : Type} (members : List (String × α)) : List (String × α) :=
  members.foldl (fun done member => insert member.1 member.2 done) []

mutual

/-- The value with the members of every object in it sorted, each name once. -/
def canonical : Json → Json
  | .array items => .array (canonicalItems items)
  | .object members => .object (sorted (canonicalMembers members))
  | value => value

/-- Each item in canonical form. -/
def canonicalItems : List Json → List Json
  | [] => []
  | item :: rest => canonical item :: canonicalItems rest

/-- Each member with its value in canonical form. -/
def canonicalMembers : List (String × Json) → List (String × Json)
  | [] => []
  | (name, value) :: rest => (name, canonical value) :: canonicalMembers rest

end

end Json

end BeaconLight

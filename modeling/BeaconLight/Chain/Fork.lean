import BeaconLight.Json.Reader
import BeaconLight.Text.Blank

/-!
# Forks

The forks of the consensus chain in their order. `Fork.parse?` reads a name up to letter
case and the blanks around it. All forks but the first carry light client data, and those
are a type of their own, `LightFork`.
-/

namespace BeaconLight

/-- A fork of the consensus chain. -/
inductive Fork
  | phase0
  | altair
  | bellatrix
  | capella
  | deneb
  deriving DecidableEq, Repr, Inhabited

namespace Fork

/-- The forks in their order. -/
def all : List Fork := [.phase0, .altair, .bellatrix, .capella, .deneb]

/-- The name of a fork. -/
def name : Fork → String
  | .phase0 => "phase0"
  | .altair => "altair"
  | .bellatrix => "bellatrix"
  | .capella => "capella"
  | .deneb => "deneb"

/-- The place of a fork in the order. -/
def index : Fork → Nat
  | .phase0 => 0
  | .altair => 1
  | .bellatrix => 2
  | .capella => 3
  | .deneb => 4

instance : Ord Fork := ⟨fun a b => compare a.index b.index⟩

/-- The fork that a text names, up to letter case and the blanks around it. -/
def parse? (text : String) : Option Fork :=
  all.find? fun fork => Text.equalsIgnoringCase (Text.trim text) fork.name

/-- Reads the name of a fork as it is spelled. -/
def reader : Json.Reader Fork :=
  .choice (all.map fun fork => (fork.name, fork))

/-- The wording when a text names no fork. -/
def unknownMessage (text : String) : String :=
  "unknown fork version `" ++ text ++ "`"

end Fork

/-- A fork that carries light client data. -/
inductive LightFork
  | altair
  | bellatrix
  | capella
  | deneb
  deriving DecidableEq, Repr, Inhabited

/-- The fork among all forks. -/
def LightFork.toFork : LightFork → Fork
  | .altair => .altair
  | .bellatrix => .bellatrix
  | .capella => .capella
  | .deneb => .deneb

/-- The name of a fork that carries light client data. -/
def LightFork.name (fork : LightFork) : String :=
  fork.toFork.name

/-- The fork as one that carries light client data, which all but the first are. -/
def Fork.light? : Fork → Option LightFork
  | .phase0 => none
  | .altair => some .altair
  | .bellatrix => some .bellatrix
  | .capella => some .capella
  | .deneb => some .deneb

/-- A fork carries light client data exactly when it is one of the light forks. -/
theorem Fork.light?_eq_some_iff {fork : Fork} {light : LightFork} :
  fork.light? = some light ↔ light.toFork = fork
  := by
  cases fork <;> cases light <;> simp [Fork.light?, LightFork.toFork]

end BeaconLight

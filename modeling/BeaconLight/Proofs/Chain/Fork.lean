import BeaconLight.Chain.Fork

/-!
# Names of forks

A text names a fork when it is the name of the fork up to letter case and the blanks around it.
No two forks share a name, so a text names at most one, and what is read off a text is the fork
that it names.
-/

namespace BeaconLight

namespace Fork

/-- A text is the name of a fork, up to letter case and the blanks around it. -/
def IsNamedBy (fork : Fork) (text : String) : Prop :=
  Text.lower (Text.trim text) = fork.name

instance (fork : Fork) (text : String) : Decidable (fork.IsNamedBy text) :=
  inferInstanceAs (Decidable (Text.lower (Text.trim text) = fork.name))

/-- Forks are told apart by their names. -/
theorem name_injective {fork fork' : Fork} (h : fork.name = fork'.name) :
  fork = fork'
  := by
  cases fork
  all_goals
    cases fork'
    all_goals first
      | rfl
      | exact absurd h (by decide)

theorem lower_name (fork : Fork) :
  Text.lower fork.name = fork.name
  := by
  cases fork
  all_goals decide

theorem isNamedBy_name (fork : Fork) :
  fork.IsNamedBy fork.name
  := by
  cases fork
  all_goals decide

/-- A fork is read off a text exactly when the text names it. -/
theorem parse?_eq_some_iff {text : String} {fork : Fork} :
  parse? text = some fork ↔ fork.IsNamedBy text
  := by
  have hnames (other : Fork) :
      Text.equalsIgnoringCase (Text.trim text) other.name = true ↔ other.IsNamedBy text := by
    rw [Text.equalsIgnoringCase, beq_iff_eq, lower_name, IsNamedBy]
  unfold parse?
  constructor
  · intro h
    have hnamed := List.find?_some h
    apply (hnames fork).mp hnamed
  · intro h
    cases hfind : all.find? fun other =>
        Text.equalsIgnoringCase (Text.trim text) other.name with
    | none =>
      have hfork : fork ∈ all := by
        cases fork
        all_goals decide
      exact absurd ((hnames fork).mpr h) (List.find?_eq_none.mp hfind fork hfork)
    | some other =>
      have hother := List.find?_some hfind
      rw [name_injective (((hnames other).mp hother).symm.trans h)]

theorem parse?_eq_none_iff {text : String} :
  parse? text = none ↔ ∀ fork : Fork, ¬ fork.IsNamedBy text
  := by
  rw [Option.eq_none_iff_forall_ne_some]
  simp only [Ne, parse?_eq_some_iff]

theorem light?_eq_none_iff {fork : Fork} :
  fork.light? = none ↔ fork = .phase0
  := by
  cases fork
  all_goals decide

end Fork

namespace LightFork

theorem light?_toFork (fork : LightFork) :
  fork.toFork.light? = some fork
  := Fork.light?_eq_some_iff.mpr rfl

/-- Light forks are told apart as forks. -/
theorem toFork_injective {fork fork' : LightFork} (h : fork.toFork = fork'.toFork) :
  fork = fork'
  := by
  apply Option.some.inj
  rw [← fork.light?_toFork, h, light?_toFork]

end LightFork

end BeaconLight

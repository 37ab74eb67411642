import PuzzlePrep.Proofs.Toml.Parser

namespace PuzzlePrep

namespace Setting

namespace Variable

theorem whole?_ordered {cs : List Char} {value : Setting} (read : whole? cs = some value) :
    Ordered value := by
  unfold whole? at read
  dsimp only at read
  split at read
  · cases read
  split at read
  · split at read
    · cases read
      exact .value nofun
    · cases read
  · split at read
    · cases read
      exact .value nofun
    · cases read

theorem plain_ordered (cs : List Char) : Ordered (plain cs) := by
  unfold plain
  split
  · exact .value nofun
  · cases found : whole? cs with
    | none => exact .value nofun
    | some value => exact whole?_ordered found

section Step

variable {fuel : Nat} {cs rest : List Char}

theorem ordered_of_readValue {value : Setting}
    (members : ∀ {done cs m rest}, Ordered (.table done) →
      readMembers fuel done cs = some (m, rest) → Ordered (.table m))
    (read : readValue (fuel + 1) cs = some (value, rest)) : Ordered value := by
  unfold readValue at read
  dsimp only at read
  split at read
  · cases read
    exact .value nofun
  · cases read
    exact .value nofun
  · split at read
    · obtain ⟨_, found, read⟩ := Option.bind_eq_some_iff.mp read
      obtain ⟨_, inner, rfl⟩ := Option.map_eq_some_iff.mp found
      cases read
      exact members ordered_empty inner
    · obtain ⟨_, found, read⟩ := Option.bind_eq_some_iff.mp read
      obtain ⟨_, -, rfl⟩ := Option.map_eq_some_iff.mp found
      cases read
      exact .value nofun
    · obtain ⟨_, found, read⟩ := Option.bind_eq_some_iff.mp read
      obtain ⟨_, -, rfl⟩ := Option.map_eq_some_iff.mp found
      cases read
      exact .value nofun
    · cases read
      exact .value nofun
    · cases read
    · cases read
      exact plain_ordered _

theorem ordered_of_readMembers {done m : Members}
    (values : ∀ {cs value rest}, readValue fuel cs = some (value, rest) → Ordered value)
    (members : ∀ {done cs m rest}, Ordered (.table done) →
      readMembers fuel done cs = some (m, rest) → Ordered (.table m))
    (before : Ordered (.table done)) (read : readMembers (fuel + 1) done cs = some (m, rest)) :
    Ordered (.table m) := by
  unfold readMembers at read
  split at read
  · cases read
  · cases read
    exact before
  · rename_i fuel' smaller _
    obtain rfl : fuel = fuel' := Nat.succ.inj smaller
    obtain ⟨⟨key, _⟩, -, read⟩ := Option.bind_eq_some_iff.mp read
    dsimp only at read
    split at read
    · obtain ⟨⟨value, _⟩, first, read⟩ := Option.bind_eq_some_iff.mp read
      have after := before.insert (values first) key
      dsimp only at read
      split at read
      · exact members after read
      · cases read
        exact after
      · cases read
    · cases read

end Step

/-- A value and the members of a table in braces, with a bound on how much is read of the text. -/
theorem ordered_of_read (fuel : Nat) :
    (∀ {cs value rest}, readValue fuel cs = some (value, rest) → Ordered value) ∧
      ∀ {done cs m rest}, Ordered (.table done) → readMembers fuel done cs = some (m, rest) →
        Ordered (.table m) := by
  induction fuel with
  | zero =>
    constructor
    · intro cs value rest read
      unfold readValue at read
      cases read
    · intro done cs m rest _ read
      unfold readMembers at read
      cases read
  | succ fuel ih =>
    obtain ⟨values, members⟩ := ih
    exact ⟨ordered_of_readValue members, ordered_of_readMembers values members⟩

theorem parse_ordered (text : String) : Ordered (parse text) := by
  unfold parse
  dsimp only
  split
  · rename_i value found
    exact (ordered_of_read _).1 found
  · exact .value nofun

end Variable

def variablesOf (env : Environment) : List Setting :=
  env.filterMap fun (name, value) =>
    (Variable.keys? name).map fun keys => nest keys (Variable.parse value)

theorem ofEnvironment_eq_stack (env : Environment) :
    ofEnvironment env = Settings.stack (variablesOf env) := by
  unfold ofEnvironment Settings.stack variablesOf
  rw [List.foldl_filterMap]
  congr
  funext below ⟨name, value⟩
  dsimp only
  cases Variable.keys? name <;> rfl

theorem ofEnvironment_ordered (env : Environment) : Ordered (ofEnvironment env) := by
  rw [ofEnvironment_eq_stack]
  apply ordered_stack
  intro j member
  obtain ⟨e, -, said⟩ := List.mem_filterMap.mp member
  obtain ⟨keys, -, rfl⟩ := Option.map_eq_some_iff.mp said
  exact ordered_nest (Variable.parse_ordered e.2)

end Setting

namespace Settings

open Setting (Ordered)

variable {t : Tree} {p : Path} {layer : Setting}

theorem layerOf_ordered (given : layerOf t p = .ok layer) : Ordered layer := by
  unfold layerOf at given
  split at given
  · cases given
    exact Setting.ordered_empty
  · split at given
    · rename_i layer' parsed
      cases given
      obtain ⟨text, -, read⟩ := Option.bind_eq_some_iff.mp parsed
      exact Toml.parse?_ordered read
    · cases given

theorem layerIfThere_ordered {p : Option Path} (given : layerIfThere t p = .ok layer) :
    Ordered layer := by
  unfold layerIfThere at given
  split at given
  · exact layerOf_ordered given
  · cases given
    exact Setting.ordered_empty

theorem layerAsked_ordered {p : Option Path} (given : layerAsked t p = .ok layer) :
    Ordered layer := by
  unfold layerAsked at given
  split at given
  · exact layerOf_ordered given
  · cases given
    exact Setting.ordered_empty

end Settings

end PuzzlePrep

import PuzzlePrep.Proofs.Files.Apart

namespace PuzzlePrep

inductive Component
  | root
  | here
  | up
  | name (s : String)
  deriving DecidableEq, Repr

namespace Path

def componentOf (part : List Char) : Component :=
  if part = ['.', '.'] then .up else .name (String.ofList part)

def components (p : Path) : List Component :=
  let named := (p.parts.filter (!silent ·)).map componentOf
  if p.isAbsolute then .root :: named
  else if p.parts.head? = some ['.'] then .here :: named
  else named

section Div

variable {base : Path} {name : String}

theorem filter_above (base : Path) :
    base.above.filter (!silent ·) = base.parts.filter (!silent ·) := by
  rcases base.parts_above with whole | whole
  · rw [whole, List.filter_append]
    simp [silent]
  · rw [whole]

theorem head?_above_concat (base : Path) {part : List Char} (other : part ≠ ['.']) :
    (base.above ++ [part]).head? = some ['.'] ↔ base.parts.head? = some ['.'] := by
  rcases base.parts_above with whole | whole
  · rw [whole]
    cases base.above with
    | nil => simpa using other
    | cons first rest => rfl
  · have some : base.above ≠ [] := by
      rw [← whole, parts_eq]
      exact Text.pieces_ne_nil _ _
    rw [whole, List.head?_append_of_ne_nil _ some]

theorem componentOf_plainName (plain : PlainName name) :
    componentOf name.toList = .name name := by
  rw [componentOf, if_neg plain.dots, String.ofList_toList]

/-- A plain name behind a path is one more component of it, however the path is written. -/
theorem components_div (plain : PlainName name) :
    (base / name).components = base.components ++ [.name name] := by
  have named : ((base / name).parts.filter (!silent ·)).map componentOf =
      (base.parts.filter (!silent ·)).map componentOf ++ [.name name] := by
    rw [parts_div plain, List.filter_append, filter_above, List.map_append]
    simp [plain.not_silent, componentOf_plainName plain]
  simp only [components, named, isAbsolute_div plain]
  cases absolute : base.isAbsolute with
  | true => rfl
  | false =>
    have front := head?_above_concat base plain.dot
    rw [parts_div plain]
    simp only [front, Bool.false_eq_true, if_false]
    split <;> rfl

end Div

end Path

open PuzzlePrep.Path

variable {l l' : Layout} {p q : Partition} {s s' : Split}

theorem components_file (l : Layout) (p : Partition) (s : Split) :
    (l.file p s).components = l.root.components ++ [.name p.name, .name s.fileName] := by
  rw [Layout.file, components_div s.plainName, Layout.directory, components_div p.plainName,
    List.append_assoc]
  rfl

theorem components_temporary (l : Layout) (p : Partition) (s : Split) :
    (l.file p s).temporary.components =
      l.root.components ++ [.name p.name, .name (s.fileName ++ ".tmp")] := by
  rw [Tree.temporary_file, components_div s.plainName_temporary, Layout.directory,
    components_div p.plainName, List.append_assoc]
  rfl

/-- Two names below a root, told apart by their components. -/
theorem append_names_inj {root root' : List Component} {a b a' b' : String} :
    root ++ [.name a, .name b] = root' ++ [.name a', .name b'] ↔ root = root' ∧ a = a' ∧ b = b' := by
  constructor
  · intro same
    obtain ⟨roots, names⟩ := List.append_inj' same rfl
    simp only [List.cons.injEq, Component.name.injEq, and_true] at names
    exact ⟨roots, names⟩
  · rintro ⟨rfl, rfl, rfl⟩
    rfl

theorem components_file_inj : (l.file p s).components = (l'.file q s').components ↔
    l.root.components = l'.root.components ∧ p = q ∧ s = s' := by
  rw [components_file, components_file, append_names_inj]
  refine and_congr_right fun _ => and_congr ?_ ?_
  · exact ⟨Partition.name_injective, congrArg _⟩
  · exact ⟨Split.fileName_injective, congrArg _⟩

theorem components_temporary_inj :
    (l.file p s).temporary.components = (l'.file q s').temporary.components ↔
      l.root.components = l'.root.components ∧ p = q ∧ s = s' := by
  rw [components_temporary, components_temporary, append_names_inj]
  refine and_congr_right fun _ => and_congr ?_ ?_
  · exact ⟨Partition.name_injective, congrArg _⟩
  · exact ⟨Split.temporary_injective, fun same => same ▸ rfl⟩

theorem components_temporary_ne :
    (l.file p s).temporary.components ≠ (l'.file q s').components := by
  rw [components_temporary, components_file]
  intro same
  exact s.temporary_ne s' (append_names_inj.mp same).2.2

/-- A name is taken for a partition, by itself or as a JSON value, just where it is one plain segment. The
file of a split lies at two names behind the root, which tell it from all others, and the sibling that it
is written to first is no file of any layout and no sibling of another file. -/
theorem layout_keeps_apart :
    (∀ name : String,
      ((∃ p, Partition.ofName name = .ok p) ↔
        name ≠ "" ∧ '/' ∉ name.toList ∧ '\\' ∉ name.toList ∧ name ≠ "." ∧ name ≠ "..") ∧
      ((∃ p, Partition.ofJson? (.str name) = some p) ↔
        name ≠ "" ∧ '/' ∉ name.toList ∧ '\\' ∉ name.toList ∧ name ≠ "." ∧ name ≠ "..") ∧
      ∀ p, (Partition.ofName name = .ok p ↔ p.name = name) ∧
        (Partition.ofJson? (.str name) = some p ↔ p.name = name)) ∧
    ∀ (l : Layout) (p : Partition) (s : Split),
      (l.file p s).components = l.root.components ++ [.name p.name, .name s.fileName] ∧
      ∀ (l' : Layout) (q : Partition) (s' : Split),
        ((l.file p s).components = (l.file q s').components ↔ p = q ∧ s = s') ∧
        (l.file p s = l.file q s' ↔ p = q ∧ s = s') ∧
        (l.file p s).temporary.components ≠ (l'.file q s').components ∧
        ((l.file p s).temporary.components = (l'.file q s').temporary.components ↔
          (l.file p s).components = (l'.file q s').components) := by
  have ofJson (name : String) (p : Partition) :
      Partition.ofJson? (.str name) = some p ↔ Partition.ofName name = .ok p := by
    rw [Partition.ofJson?]
    show (Partition.ofName name).toOption = some p ↔ _
    cases Partition.ofName name <;> simp [Except.toOption]
  refine ⟨fun name => ?_, fun l p s => ⟨components_file l p s, fun l' q s' =>
    ⟨?_, ?_, components_temporary_ne, ?_⟩⟩⟩
  · simp only [ofJson]
    rw [Partition.exists_ofName_iff, Partition.isSegment_iff]
    exact ⟨Iff.rfl, Iff.rfl, fun p => ⟨Partition.ofName_eq_ok_iff, Partition.ofName_eq_ok_iff⟩⟩
  · rw [components_file_inj]
    exact and_iff_right rfl
  · constructor
    · intro same
      exact (components_file_inj.mp (congrArg components same)).2
    · rintro ⟨rfl, rfl⟩
      rfl
  · rw [components_temporary_inj, components_file_inj]

example : (Layout.mk ⟨"./data//raw/."⟩ |>.file ⟨"..tmp", by decide⟩ .test).components =
    [.here, .name "data", .name "raw", .name "..tmp", .name "test.parquet"] := by
  decide +kernel

end PuzzlePrep

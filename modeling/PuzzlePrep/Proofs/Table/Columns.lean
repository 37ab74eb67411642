import Mathlib.Data.List.Nodup
import PuzzlePrep.Proofs.Outcome
import PuzzlePrep.Table.Concat

namespace PuzzlePrep

@[simp] theorem Field.name_withNullable (f : Field) (nullable : Bool) :
    (f.withNullable nullable).name = f.name := rfl

@[simp] theorem Field.type_withNullable (f : Field) (nullable : Bool) :
    (f.withNullable nullable).type = f.type := rfl

def columnType? (columns : List Field) (name : String) : Option ColumnType :=
  (columns.find? (·.name == name)).map Field.type

section Column

variable {columns : List Field} {f : Field} {name : String}

theorem columnType?_cons (g : Field) (rest : List Field) (name : String) :
    columnType? (g :: rest) name = if g.name = name then some g.type else columnType? rest name := by
  by_cases same : g.name = name <;> simp [columnType?, same]

theorem columnType?_eq_none_iff : columnType? columns name = none ↔ name ∉ columns.map Field.name := by
  simp [columnType?]

theorem columnType?_of_mem (apart : (columns.map Field.name).Nodup) (member : f ∈ columns) :
    columnType? columns f.name = some f.type := by
  induction columns with
  | nil => cases member
  | cons g rest ih =>
    rw [List.map_cons, List.nodup_cons] at apart
    rw [columnType?_cons]
    rcases List.mem_cons.mp member with rfl | member
    · rw [if_pos rfl]
    · have other : g.name ≠ f.name := fun same => apart.1 (same ▸ List.mem_map_of_mem member)
      rw [if_neg other, ih apart.2 member]

theorem columnType?_map {change : Field → Field} (name : String)
    (keeps : ∀ f, (change f).name = f.name ∧ (change f).type = f.type) :
    columnType? (columns.map change) name = columnType? columns name := by
  induction columns with
  | nil => rfl
  | cons g rest ih => rw [List.map_cons, columnType?_cons, columnType?_cons, (keeps g).1, (keeps g).2, ih]

end Column

namespace Schema

section Add

variable {columns columns' : List Field} {f : Field}

theorem columnType?_addColumn (h : addColumn columns f = .ok columns') (name : String) :
    columnType? columns' name = if f.name = name then some f.type else columnType? columns name := by
  induction columns generalizing columns' with
  | nil =>
    cases h
    exact columnType?_cons f [] name
  | cons g rest ih =>
    rw [addColumn] at h
    split at h
    · rename_i same
      split at h
      · rename_i type
        cases h
        simp only [columnType?_cons, Field.name_withNullable, Field.type_withNullable, same, type]
        split <;> rfl
      · cases h
    · rename_i other
      obtain ⟨rest', added, rfl⟩ := map_eq_ok.mp h
      rw [columnType?_cons, ih added, columnType?_cons]
      by_cases here : g.name = name
      · have later : f.name ≠ name := fun same => other (here.trans same.symm)
        simp [here, later]
      · simp [here]

theorem names_addColumn (h : addColumn columns f = .ok columns') : columns'.map Field.name =
    if f.name ∈ columns.map Field.name then columns.map Field.name
    else columns.map Field.name ++ [f.name] := by
  induction columns generalizing columns' with
  | nil =>
    cases h
    rfl
  | cons g rest ih =>
    rw [addColumn] at h
    split at h
    · rename_i same
      split at h
      · cases h
        simp [same]
      · cases h
    · rename_i other
      obtain ⟨rest', added, rfl⟩ := map_eq_ok.mp h
      have different : f.name ≠ g.name := fun same => other same.symm
      simp only [List.map_cons, ih added, List.mem_cons, different, false_or]
      split <;> rfl

theorem nodup_addColumn (h : addColumn columns f = .ok columns')
    (apart : (columns.map Field.name).Nodup) : (columns'.map Field.name).Nodup := by
  rw [names_addColumn h]
  split
  · exact apart
  · rename_i fresh
    rw [← List.concat_eq_append]
    exact List.Nodup.concat fresh apart

theorem type_of_addColumn (h : addColumn columns f = .ok columns') {type : ColumnType}
    (present : columnType? columns f.name = some type) : f.type = type := by
  induction columns generalizing columns' with
  | nil => cases present
  | cons g rest ih =>
    rw [addColumn] at h
    rw [columnType?_cons] at present
    split at h
    · rename_i same
      rw [if_pos same, Option.some.injEq] at present
      split at h
      · rename_i type'
        rw [← type', present]
      · cases h
    · rename_i other
      rw [if_neg other] at present
      obtain ⟨rest', added, rfl⟩ := map_eq_ok.mp h
      exact ih added present

end Add

section All

variable {columns columns' fields : List Field}

theorem nodup_addColumns (h : fields.foldlM addColumn columns = .ok columns')
    (apart : (columns.map Field.name).Nodup) : (columns'.map Field.name).Nodup := by
  induction fields generalizing columns with
  | nil =>
    cases h
    exact apart
  | cons f fields ih =>
    rw [List.foldlM_cons] at h
    obtain ⟨between, added, later⟩ := bind_eq_ok.mp h
    exact ih later (nodup_addColumn added apart)

theorem columnType?_addColumns (h : fields.foldlM addColumn columns = .ok columns')
    {name : String} {type : ColumnType} (present : columnType? columns name = some type) :
    columnType? columns' name = some type := by
  induction fields generalizing columns with
  | nil =>
    cases h
    exact present
  | cons f fields ih =>
    rw [List.foldlM_cons] at h
    obtain ⟨between, added, later⟩ := bind_eq_ok.mp h
    refine ih later ?_
    rw [columnType?_addColumn added]
    split
    · rename_i same
      subst same
      rw [type_of_addColumn added present]
    · exact present

theorem columnType?_of_added (h : fields.foldlM addColumn columns = .ok columns') {f : Field}
    (member : f ∈ fields) : columnType? columns' f.name = some f.type := by
  induction fields generalizing columns with
  | nil => cases member
  | cons g fields ih =>
    rw [List.foldlM_cons] at h
    obtain ⟨between, added, later⟩ := bind_eq_ok.mp h
    rcases List.mem_cons.mp member with rfl | member
    · refine columnType?_addColumns later ?_
      rw [columnType?_addColumn added, if_pos rfl]
    · exact ih later member

end All

section Unite

variable {schemas : List Schema} {columns : List Field}

@[simp] theorem name_relax (schemas : List Schema) (f : Field) : (relax schemas f).name = f.name := by
  rw [relax]
  split <;> rfl

@[simp] theorem type_relax (schemas : List Schema) (f : Field) : (relax schemas f).type = f.type := by
  rw [relax]
  split <;> rfl

theorem names_relax (schemas : List Schema) (columns : List Field) :
    (columns.map (relax schemas)).map Field.name = columns.map Field.name := by
  simp [Function.comp_def]

theorem columnType?_relax (schemas : List Schema) (columns : List Field) (name : String) :
    columnType? (columns.map (relax schemas)) name = columnType? columns name :=
  columnType?_map name fun f => ⟨name_relax schemas f, type_relax schemas f⟩

theorem nodup_unite (h : unite schemas = .ok columns) : (columns.map Field.name).Nodup :=
  nodup_addColumns h List.nodup_nil

theorem columnType?_unite (h : unite schemas = .ok columns) {s : Schema} (member : s ∈ schemas)
    {name : String} {type : ColumnType} (present : columnType? s.columns name = some type) :
    columnType? columns name = some type := by
  simp only [columnType?, Option.map_eq_some_iff] at present
  obtain ⟨f, found, rfl⟩ := present
  have inside : f ∈ schemas.flatMap Schema.columns :=
    List.mem_flatMap.mpr ⟨s, member, List.mem_of_find?_eq_some found⟩
  have same : f.name = name := by simpa using List.find?_some found
  rw [← same]
  exact columnType?_of_added h inside

end Unite

end Schema

end PuzzlePrep

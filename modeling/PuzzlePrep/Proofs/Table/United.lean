import PuzzlePrep.Proofs.Distinct
import PuzzlePrep.Proofs.Table.Columns

namespace PuzzlePrep

/-- No name has two types. -/
def Agree (fields : List Field) : Prop :=
  ∀ f ∈ fields, ∀ g ∈ fields, f.name = g.name → f.type = g.type

instance (fields : List Field) : Decidable (Agree fields) :=
  inferInstanceAs (Decidable (∀ f ∈ fields, ∀ g ∈ fields, f.name = g.name → f.type = g.type))

/-- In the order of the fields, the first one whose name comes with another type than before has this
name and the type `second`; before, the name comes with the type `first`. -/
def FirstConflict (fields : List Field) (name : String) (first second : ColumnType) : Prop :=
  ∃ before f after, fields = before ++ f :: after ∧ Agree before ∧ f.name = name ∧
    columnType? before name = some first ∧ f.type = second ∧ first ≠ second

section Agreement

variable {fields xs ys : List Field} {f : Field} {name : String} {type : ColumnType}

theorem columnType?_append (xs ys : List Field) (name : String) :
    columnType? (xs ++ ys) name = (columnType? xs name).or (columnType? ys name) := by
  rw [columnType?, List.find?_append, Option.map_or]
  rfl

theorem mem_of_columnType? (found : columnType? fields name = some type) :
    ∃ f ∈ fields, f.name = name ∧ f.type = type := by
  obtain ⟨f, first, same⟩ := Option.map_eq_some_iff.mp found
  exact ⟨f, List.mem_of_find?_eq_some first, by simpa using List.find?_some first, same⟩

theorem agree_iff_columnType? :
    Agree fields ↔ ∀ f ∈ fields, columnType? fields f.name = some f.type := by
  constructor
  · intro agree f member
    cases found : columnType? fields f.name with
    | none => exact absurd (List.mem_map_of_mem member) (columnType?_eq_none_iff.mp found)
    | some type =>
      obtain ⟨g, inside, name, rfl⟩ := mem_of_columnType? found
      rw [agree g inside f member name]
  · intro types f hf g hg same
    have here := types f hf
    rw [same, types g hg, Option.some.injEq] at here
    exact here.symm

theorem Agree.columnType? (agree : Agree fields) (member : f ∈ fields) :
    columnType? fields f.name = some f.type := agree_iff_columnType?.mp agree f member

theorem Agree.of_subset (agree : Agree fields) (inside : xs ⊆ fields) : Agree xs :=
  fun f hf g hg => agree f (inside hf) g (inside hg)

theorem agree_concat_iff : Agree (fields ++ [f]) ↔
    Agree fields ∧ ∀ type, columnType? fields f.name = some type → type = f.type := by
  constructor
  · intro agree
    refine ⟨agree.of_subset (by simp), fun type found => ?_⟩
    obtain ⟨g, inside, name, rfl⟩ := mem_of_columnType? found
    exact agree g (by simp [inside]) f (by simp) name
  · rintro ⟨agree, last⟩
    rw [agree_iff_columnType?]
    intro g member
    rw [columnType?_append]
    rcases List.mem_append.mp member with inside | own
    · rw [agree.columnType? inside, Option.some_or]
    · rw [List.mem_singleton.mp own]
      cases found : PuzzlePrep.columnType? fields f.name with
      | none => simp [PuzzlePrep.columnType?]
      | some type => rw [last type found, Option.some_or]

theorem exists_firstConflict (differ : ¬ Agree fields) :
    ∃ name first second, FirstConflict fields name first second := by
  induction fields using List.reverseRecOn with
  | nil => exact absurd (by simp [Agree]) differ
  | append_singleton fields f ih =>
    by_cases agree : Agree fields
    · simp only [agree_concat_iff, agree, true_and, not_forall] at differ
      obtain ⟨type, found, other⟩ := differ
      exact ⟨f.name, type, f.type, fields, f, [], rfl, agree, rfl, found, rfl, other⟩
    · obtain ⟨name, first, second, before, g, after, rfl, rest⟩ := ih agree
      exact ⟨name, first, second, before, g, after ++ [f], by simp, rest⟩

end Agreement

namespace Schema

def fieldOf (fields : List Field) (name : String) : Field :=
  .mk name ((columnType? fields name).getD .null) (fields.any fun f => f.name == name && f.nullable)

def gathered (fields : List Field) : List Field :=
  (fields.map Field.name).eraseDups.map (fieldOf fields)

section Gathered

variable {fields columns : List Field} {f : Field}

theorem names_gathered (fields : List Field) :
    (gathered fields).map Field.name = (fields.map Field.name).eraseDups := by
  rw [gathered, List.map_map]
  exact List.map_id _

theorem nodup_gathered (fields : List Field) : ((gathered fields).map Field.name).Nodup := by
  rw [names_gathered]
  exact nodup_eraseDups _

theorem columnType?_gathered (fields : List Field) (name : String) :
    columnType? (gathered fields) name = columnType? fields name := by
  cases found : columnType? fields name with
  | none =>
    rw [columnType?_eq_none_iff] at found ⊢
    rwa [names_gathered, List.mem_eraseDups]
  | some type =>
    have there : name ∈ fields.map Field.name := by
      obtain ⟨f, member, rfl, -⟩ := mem_of_columnType? found
      exact List.mem_map_of_mem member
    have member : fieldOf fields name ∈ gathered fields :=
      List.mem_map_of_mem (List.mem_eraseDups.mpr there)
    have own : (fieldOf fields name).type = type := by
      rw [fieldOf, Field.type, found, Option.getD_some]
    exact (columnType?_of_mem (nodup_gathered fields) member).trans (congrArg some own)

theorem fieldOf_concat_of_other {name : String} (other : name ≠ f.name) :
    fieldOf (fields ++ [f]) name = fieldOf fields name := by
  have type : columnType? (fields ++ [f]) name = columnType? fields name := by
    rw [columnType?_append, columnType?_cons, if_neg (Ne.symm other)]
    exact Option.or_none
  simp [fieldOf, type, Ne.symm other]

theorem fieldOf_concat_of_known {type : ColumnType} (known : columnType? fields f.name = some type) :
    fieldOf (fields ++ [f]) f.name =
      (fieldOf fields f.name).withNullable ((fieldOf fields f.name).nullable || f.nullable) := by
  have same : columnType? (fields ++ [f]) f.name = columnType? fields f.name := by
    rw [columnType?_append, known, Option.some_or]
  rw [fieldOf, same, List.any_append]
  simp [fieldOf, Field.withNullable, Field.name, Field.type, Field.nullable]

theorem fieldOf_concat_of_fresh (fresh : columnType? fields f.name = none) :
    fieldOf (fields ++ [f]) f.name = f := by
  have none : (fields.any fun g => g.name == f.name && g.nullable) = false := by
    rw [List.any_eq_false]
    intro g member
    have other : g.name ≠ f.name :=
      fun same => columnType?_eq_none_iff.mp fresh (same ▸ List.mem_map_of_mem member)
    simp [other]
  rw [fieldOf, columnType?_append, fresh, List.any_append, none]
  cases f
  simp [columnType?, Field.name, Field.type, Field.nullable]

theorem addColumn_eq (distinct : (columns.map Field.name).Nodup) (f : Field) :
    addColumn columns f = match columnType? columns f.name with
      | none => .ok (columns ++ [f])
      | some type =>
        if type = f.type then
          .ok (columns.map fun g =>
            if g.name = f.name then g.withNullable (g.nullable || f.nullable) else g)
        else .error (.typeConflict f.name type f.type) := by
  induction columns with
  | nil => rfl
  | cons g rest ih =>
    rw [List.map_cons, List.nodup_cons] at distinct
    rw [addColumn, columnType?_cons]
    by_cases same : g.name = f.name
    · have others : (rest.map fun g =>
          if g.name = f.name then g.withNullable (g.nullable || f.nullable) else g) = rest := by
        rw [List.map_congr_left (g := id), List.map_id]
        intro h member
        rw [if_neg, id]
        intro again
        exact distinct.1 (same.trans again.symm ▸ List.mem_map_of_mem member)
      simp only [if_pos same, List.map_cons, others]
    · simp only [if_neg same, ih distinct.2, List.map_cons]
      cases columnType? rest f.name with
      | none => rfl
      | some type => by_cases agree : type = f.type <;> simp [agree, Except.map]

theorem addColumn_gathered (agree : Agree (fields ++ [f])) :
    addColumn (gathered fields) f = .ok (gathered (fields ++ [f])) := by
  obtain ⟨-, last⟩ := agree_concat_iff.mp agree
  rw [addColumn_eq (nodup_gathered fields), columnType?_gathered]
  cases found : columnType? fields f.name with
  | none =>
    have fresh := columnType?_eq_none_iff.mp found
    have before : (fields.map Field.name).eraseDups.map (fieldOf (fields ++ [f])) =
        (fields.map Field.name).eraseDups.map (fieldOf fields) := by
      refine List.map_congr_left fun name member => fieldOf_concat_of_other ?_
      rintro rfl
      exact fresh (List.mem_eraseDups.mp member)
    simp only [gathered, List.map_append, List.map_cons, List.map_nil, eraseDups_concat,
      if_neg fresh, before, fieldOf_concat_of_fresh found]
  | some type =>
    have known : f.name ∈ fields.map Field.name := by
      obtain ⟨g, member, same, -⟩ := mem_of_columnType? found
      exact same ▸ List.mem_map_of_mem member
    simp only [if_pos (last type found), gathered, List.map_append, List.map_cons, List.map_nil,
      eraseDups_concat, if_pos known, List.map_map]
    refine congrArg _ (List.map_congr_left fun name _ => ?_)
    rw [Function.comp_apply]
    split
    · rename_i own
      change name = f.name at own
      subst own
      exact (fieldOf_concat_of_known found).symm
    · rename_i other
      exact (fieldOf_concat_of_other other).symm

theorem addColumns_of_agree (agree : Agree fields) :
    fields.foldlM addColumn [] = .ok (gathered fields) := by
  induction fields using List.reverseRecOn with
  | nil => rfl
  | append_singleton fields f ih =>
    rw [List.foldlM_append, ih (agree_concat_iff.mp agree).1, ok_bind, List.foldlM_cons,
      addColumn_gathered agree]
    rfl

theorem addColumns_of_conflict {name : String} {first second : ColumnType}
    (conflict : FirstConflict fields name first second) :
    fields.foldlM addColumn [] = .error (.typeConflict name first second) := by
  obtain ⟨before, f, after, rfl, agree, rfl, found, rfl, other⟩ := conflict
  have stops : addColumn (gathered before) f = .error (.typeConflict f.name first f.type) := by
    rw [addColumn_eq (nodup_gathered before), columnType?_gathered, found]
    exact if_neg other
  rw [List.foldlM_append, addColumns_of_agree agree, ok_bind, List.foldlM_cons, stops]
  rfl

end Gathered

def required (schemas : List Schema) (name : String) : Bool :=
  schemas.all fun s => s.columns.any fun f => f.name == name && !f.nullable

def columnOf (schemas : List Schema) (name : String) : Field :=
  .mk name ((columnType? (schemas.flatMap columns) name).getD .null) (!required schemas name)

/-- One column for each name, in the order in which the names are first seen. -/
def united (schemas : List Schema) : List Field :=
  (schemas.flatMap names).eraseDups.map (columnOf schemas)

section United

variable {schemas : List Schema}

theorem required_iff {name : String} : required schemas name = true ↔
    ∀ s ∈ schemas, ∃ f ∈ s.columns, f.name = name ∧ f.nullable = false := by
  simp [required]

theorem names_flatMap (schemas : List Schema) :
    (schemas.flatMap columns).map Field.name = schemas.flatMap names := List.map_flatMap

theorem nullable_fieldOf_eq_false_iff {name : String} :
    (fieldOf (schemas.flatMap columns) name).nullable = false ↔
      ∀ s ∈ schemas, ∀ f ∈ s.columns, f.name = name → f.nullable = false := by
  have any : (fieldOf (schemas.flatMap columns) name).nullable =
      (schemas.flatMap columns).any fun f => f.name == name && f.nullable := rfl
  simp [any]

/-- As no schema has a name twice, a column that may be null somewhere is not required. -/
theorem required_iff_of_nodup (apart : ∀ s ∈ schemas, s.names.Nodup) {name : String} :
    required schemas name = true ↔ (∀ s ∈ schemas, name ∈ s.names) ∧
      (fieldOf (schemas.flatMap columns) name).nullable = false := by
  rw [required_iff, nullable_fieldOf_eq_false_iff]
  constructor
  · intro all
    constructor
    · intro s member
      obtain ⟨f, inside, rfl, -⟩ := all s member
      exact List.mem_map_of_mem inside
    · intro s member f inside same
      obtain ⟨g, here, name, never⟩ := all s member
      rwa [List.inj_on_of_nodup_map (apart s member) inside here (same.trans name.symm)]
  · rintro ⟨everywhere, never⟩ s member
    obtain ⟨f, inside, same⟩ := List.mem_map.mp (everywhere s member)
    exact ⟨f, inside, same, never s member f inside same⟩

theorem relax_fieldOf (apart : ∀ s ∈ schemas, s.names.Nodup) (name : String) :
    relax schemas (fieldOf (schemas.flatMap columns) name) = columnOf schemas name := by
  have flag : required schemas name = (schemas.all (·.names.contains name) &&
      !(fieldOf (schemas.flatMap columns) name).nullable) := by
    rw [Bool.eq_iff_iff, required_iff_of_nodup apart]
    simp
  rw [columnOf, flag, relax, show (fieldOf (schemas.flatMap columns) name).name = name from rfl]
  cases schemas.all (·.names.contains name) with
  | true => simp [fieldOf, Field.nullable]
  | false => rfl

theorem relax_gathered (apart : ∀ s ∈ schemas, s.names.Nodup) :
    (gathered (schemas.flatMap columns)).map (relax schemas) = united schemas := by
  rw [gathered, united, List.map_map, names_flatMap]
  exact List.map_congr_left fun name _ => relax_fieldOf apart name

theorem names_united (schemas : List Schema) :
    (united schemas).map Field.name = (schemas.flatMap names).eraseDups := by
  rw [united, List.map_map]
  exact List.map_id _

theorem mem_united {f : Field} (member : f ∈ united schemas) :
    f = columnOf schemas f.name ∧ ∃ s ∈ schemas, f.name ∈ s.names := by
  obtain ⟨name, there, rfl⟩ := List.mem_map.mp member
  exact ⟨rfl, List.mem_flatMap.mp (List.mem_eraseDups.mp there)⟩

theorem nullable_columnOf_eq_false_iff {name : String} : (columnOf schemas name).nullable = false ↔
    ∀ s ∈ schemas, ∃ f ∈ s.columns, f.name = name ∧ f.nullable = false := by
  rw [← required_iff, show (columnOf schemas name).nullable = !required schemas name from rfl,
    Bool.not_eq_false']

theorem type_columnOf (agree : Agree (schemas.flatMap columns)) {s : Schema} (member : s ∈ schemas)
    {f : Field} (inside : f ∈ s.columns) : (columnOf schemas f.name).type = f.type := by
  have found := agree.columnType? (List.mem_flatMap.mpr ⟨s, member, inside⟩)
  rw [columnOf, Field.type, found, Option.getD_some]

theorem agree_flatMap_iff : Agree (schemas.flatMap columns) ↔
    ∀ s ∈ schemas, ∀ u ∈ schemas, ∀ f ∈ s.columns, ∀ g ∈ u.columns, f.name = g.name →
      f.type = g.type := by
  constructor
  · intro agree s hs u hu f hf g hg
    exact agree f (List.mem_flatMap.mpr ⟨s, hs, hf⟩) g (List.mem_flatMap.mpr ⟨u, hu, hg⟩)
  · intro all f hf g hg
    obtain ⟨s, hs, hf⟩ := List.mem_flatMap.mp hf
    obtain ⟨u, hu, hg⟩ := List.mem_flatMap.mp hg
    exact all s hs u hu f hf g hg

end United

end Schema

end PuzzlePrep

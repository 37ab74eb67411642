import PuzzlePrep.Proofs.Table.Concat
import PuzzlePrep.Proofs.Table.United

namespace PuzzlePrep

namespace Table

/-- The names of the columns are apart, every row has a cell for each column, and none is null where
its column does not admit it. -/
structure WellFormed (t : Table) : Prop where
  apart : t.schema.names.Nodup
  width : ∀ r ∈ t.rows, r.length = t.schema.columns.length
  admitted : ∀ r ∈ t.rows, fits t.schema.columns r = true

instance (t : Table) : Decidable t.WellFormed :=
  decidable_of_iff (t.schema.names.Nodup ∧ (∀ r ∈ t.rows, r.length = t.schema.columns.length) ∧
      ∀ r ∈ t.rows, fits t.schema.columns r = true)
    ⟨fun ⟨apart, width, admitted⟩ => ⟨apart, width, admitted⟩,
      fun h => ⟨h.apart, h.width, h.admitted⟩⟩

/-- The row under the columns has, for each of them, the cell of the row for the column of this name,
and null where the schema has no such column. -/
def Carries (s : Schema) (columns : List Field) (r r' : Row) : Prop :=
  r'.length = columns.length ∧ ∀ (i : Nat) (f : Field), columns[i]? = some f →
    (∀ (j : Nat) (g : Field), s.columns[j]? = some g → g.name = f.name → r'[i]? = r[j]?) ∧
    (f.name ∉ s.names → r'[i]? = some .null)

structure IsUnion (tables : List Table) (merged : Table) : Prop where
  notes : merged.schema.metadata = []
  names : merged.schema.names = (tables.flatMap (·.schema.names)).eraseDups
  types : ∀ f ∈ merged.schema.columns, ∀ t ∈ tables, ∀ g ∈ t.schema.columns,
    g.name = f.name → g.type = f.type
  required : ∀ f ∈ merged.schema.columns, f.nullable = false ↔
    ∀ t ∈ tables, ∃ g ∈ t.schema.columns, g.name = f.name ∧ g.nullable = false
  batches : List.Forall₂
    (fun x batch => List.Forall₂ (Carries x.1 merged.schema.columns) x.2 batch)
    (tables.flatMap fun t => t.batches.map (t.schema, ·)) merged.batches

def stacked (tables : List Table) : Table where
  schema := ⟨Schema.united (tables.map Table.schema), []⟩
  batches := tables.flatMap fun t =>
    t.batches.map fun b => b.map (conform t.schema (Schema.united (tables.map Table.schema)))

section Row

variable {s : Schema} {columns : List Field} {r : Row} {f : Field} {name : String}

theorem exists_cell (width : r.length = s.columns.length) (member : f ∈ s.columns) :
    ∃ c, (f, c) ∈ s.columns.zip r := by
  obtain ⟨i, inside, rfl⟩ := List.mem_iff_getElem.mp member
  refine ⟨r[i], List.mem_iff_getElem.mpr ⟨i, by simp [width, inside], by simp⟩⟩

theorem cellOf_of_missing (missing : name ∉ s.names) : cellOf s name r = .null := by
  have none : s.columns.findIdx? (·.name == name) = none := by
    rw [List.findIdx?_eq_none_iff]
    intro f member
    have other : f.name ≠ name := fun same => missing (same ▸ List.mem_map_of_mem member)
    simp [other]
  rw [cellOf, none]

theorem carries_conform (apart : s.names.Nodup) (width : r.length = s.columns.length) :
    Carries s columns r (conform s columns r) := by
  refine ⟨by simp [conform], fun i f here => ?_⟩
  have cell : (conform s columns r)[i]? = some (cellOf s f.name r) := by
    simp [conform, here]
  rw [cell]
  constructor
  · intro j g there same
    obtain ⟨inside, rfl⟩ := List.getElem?_eq_some_iff.mp there
    have pair : (s.columns[j], r[j]) ∈ s.columns.zip r :=
      List.mem_iff_getElem.mpr ⟨j, by simp [width, inside], by simp⟩
    rw [← same, cellOf_of_mem_zip apart pair, List.getElem?_eq_getElem]
  · intro missing
    rw [cellOf_of_missing missing]

theorem fits_conform (each : ∀ f ∈ columns, f.admits (cellOf s f.name r) = true) :
    fits columns (conform s columns r) = true := by
  rw [fits, List.all_eq_true, conform]
  rintro ⟨f, c⟩ member
  rw [List.zip_map_right, List.mem_map] at member
  obtain ⟨⟨g, h⟩, pair, same⟩ := member
  cases same
  obtain ⟨i, inside, here⟩ := List.mem_iff_getElem.mp pair
  simp only [List.getElem_zip, Prod.mk.injEq] at here
  rw [← here.2, here.1]
  exact each g (List.of_mem_zip pair).1

end Row

section Stacked

variable {tables : List Table}

/-- A column that may not be null is in every table, and may not be null there. -/
theorem fits_stacked (wellFormed : ∀ t ∈ tables, t.WellFormed)
    (agree : Agree ((tables.map Table.schema).flatMap Schema.columns)) {t : Table}
    (member : t ∈ tables) {r : Row} (row : r ∈ t.rows) :
    fits (Schema.united (tables.map Table.schema))
      (conform t.schema (Schema.united (tables.map Table.schema)) r) = true := by
  apply fits_conform
  intro f there
  have here : t.schema ∈ tables.map Table.schema := List.mem_map_of_mem member
  have own := (Schema.mem_united there).1
  cases nullable : f.nullable with
  | true => rw [Field.admits, nullable, Bool.true_or, Bool.true_or]
  | false =>
    rw [own, Schema.nullable_columnOf_eq_false_iff] at nullable
    obtain ⟨g, inside, same, never⟩ := nullable t.schema here
    obtain ⟨c, pair⟩ := exists_cell ((wellFormed t member).width r row) inside
    have admitted : g.admits c = true :=
      List.all_eq_true.mp ((wellFormed t member).admitted r row) (g, c) pair
    have type : f.type = g.type := by
      rw [own, ← same]
      exact Schema.type_columnOf agree here inside
    rw [← same, cellOf_of_mem_zip (wellFormed t member).apart pair]
    rw [Field.admits, never, Bool.false_or] at admitted
    rw [Field.admits, type, Bool.or_assoc, admitted, Bool.or_true]

theorem united_ne_nil (some : ∃ t ∈ tables, t.schema.columns ≠ []) :
    Schema.united (tables.map Table.schema) ≠ [] := by
  obtain ⟨t, member, columns⟩ := some
  obtain ⟨f, inside⟩ := List.exists_mem_of_ne_nil _ columns
  have named : f.name ∈ (tables.map Table.schema).flatMap Schema.names :=
    List.mem_flatMap.mpr ⟨t.schema, List.mem_map_of_mem member, List.mem_map_of_mem inside⟩
  exact List.ne_nil_of_mem (List.mem_map_of_mem (List.mem_eraseDups.mpr named))

theorem concat_of_agree (wellFormed : ∀ t ∈ tables, t.WellFormed)
    (some : ∃ t ∈ tables, t.schema.columns ≠ [])
    (agree : Agree ((tables.map Table.schema).flatMap Schema.columns)) :
    concat tables = .ok (stacked tables) := by
  have apart : ∀ s ∈ tables.map Table.schema, s.names.Nodup := by
    rintro _ member
    obtain ⟨t, inside, rfl⟩ := List.mem_map.mp member
    exact (wellFormed t inside).apart
  have columns : (Schema.united (tables.map Table.schema)).isEmpty = false :=
    List.isEmpty_eq_false_iff.mpr (united_ne_nil some)
  have fitting : (stacked tables).batches.all
      (·.all (fits (Schema.united (tables.map Table.schema)))) = true := by
    rw [List.all_eq_true]
    intro batch member
    obtain ⟨t, here, inside⟩ := List.mem_flatMap.mp member
    obtain ⟨rows, source, rfl⟩ := List.mem_map.mp inside
    rw [List.all_map, List.all_eq_true]
    intro r row
    exact fits_stacked wellFormed agree here (List.mem_flatten.mpr ⟨rows, source, row⟩)
  simp only [concat, Schema.unite, Schema.addColumns_of_agree agree, ok_bind,
    Schema.relax_gathered apart, columns, Bool.false_and, Bool.false_or]
  rw [stacked] at fitting
  rw [fitting]
  rfl

theorem concat_of_conflict {name : String} {first second : ColumnType}
    (conflict : FirstConflict ((tables.map Table.schema).flatMap Schema.columns) name first second) :
    concat tables = .error (.typeConflict name first second) := by
  rw [concat, Schema.unite, Schema.addColumns_of_conflict conflict]
  rfl

theorem isUnion_stacked (wellFormed : ∀ t ∈ tables, t.WellFormed)
    (agree : Agree ((tables.map Table.schema).flatMap Schema.columns)) :
    IsUnion tables (stacked tables) where
  notes := rfl
  names := by
    rw [Schema.names, stacked, Schema.names_united, List.flatMap_map]
  types := by
    intro f there t member g inside same
    rw [(Schema.mem_united there).1, ← same]
    exact (Schema.type_columnOf agree (List.mem_map_of_mem member) inside).symm
  required := by
    intro f there
    rw [(Schema.mem_united there).1, Schema.nullable_columnOf_eq_false_iff, List.forall_mem_map]
    rfl
  batches := by
    have each : (stacked tables).batches = (tables.flatMap fun t => t.batches.map (t.schema, ·)).map
        fun x => x.2.map (conform x.1 (Schema.united (tables.map Table.schema))) := by
      rw [stacked, List.map_flatMap]
      refine List.flatMap_congr fun t _ => ?_
      rw [List.map_map]
      rfl
    rw [each, List.forall₂_map_right_iff, List.forall₂_same]
    intro x source
    obtain ⟨t, member, inside⟩ := List.mem_flatMap.mp source
    obtain ⟨rows, batch, rfl⟩ := List.mem_map.mp inside
    rw [List.forall₂_map_right_iff, List.forall₂_same]
    intro r row
    exact carries_conform (wellFormed t member).apart
      ((wellFormed t member).width r (List.mem_flatten.mpr ⟨rows, batch, row⟩))

theorem concat_eq_ok_iff (wellFormed : ∀ t ∈ tables, t.WellFormed)
    (some : ∃ t ∈ tables, t.schema.columns ≠ []) {merged : Table} : concat tables = .ok merged ↔
      Agree ((tables.map Table.schema).flatMap Schema.columns) ∧ stacked tables = merged := by
  by_cases agree : Agree ((tables.map Table.schema).flatMap Schema.columns)
  · rw [concat_of_agree wellFormed some agree, Except.ok.injEq, iff_and_self]
    exact fun _ => agree
  · obtain ⟨name, first, second, conflict⟩ := exists_firstConflict agree
    simp [concat_of_conflict conflict, agree]

/-- Tables can be put together just if no name has two types in two of them, and what keeps them apart
is the first conflict in their columns. Together they are their union. -/
theorem concat_unites (wellFormed : ∀ t ∈ tables, t.WellFormed)
    (some : ∃ t ∈ tables, t.schema.columns ≠ []) :
    ((∃ merged, concat tables = .ok merged) ↔
      ∀ t ∈ tables, ∀ u ∈ tables, ∀ f ∈ t.schema.columns, ∀ g ∈ u.schema.columns,
        f.name = g.name → f.type = g.type) ∧
    (∀ failure, concat tables = .error failure ↔ ∃ name first second,
      failure = .typeConflict name first second ∧
      FirstConflict (tables.flatMap (·.schema.columns)) name first second) ∧
    ∀ merged, concat tables = .ok merged → IsUnion tables merged := by
  have fields : (tables.map Table.schema).flatMap Schema.columns =
      tables.flatMap (·.schema.columns) := List.flatMap_map ..
  refine ⟨?_, fun failure => ?_, fun merged united => ?_⟩
  · simp only [concat_eq_ok_iff wellFormed some, exists_and_left, exists_eq', and_true,
      Schema.agree_flatMap_iff, List.forall_mem_map]
  · rw [← fields]
    constructor
    · intro failed
      have differ : ¬ Agree ((tables.map Table.schema).flatMap Schema.columns) := by
        intro agree
        rw [concat_of_agree wellFormed some agree] at failed
        cases failed
      obtain ⟨name, first, second, conflict⟩ := exists_firstConflict differ
      rw [concat_of_conflict conflict, Except.error.injEq] at failed
      exact ⟨name, first, second, failed.symm, conflict⟩
    · rintro ⟨name, first, second, rfl, conflict⟩
      exact concat_of_conflict conflict
  · obtain ⟨agree, rfl⟩ := (concat_eq_ok_iff wellFormed some).mp united
    exact isUnion_stacked wellFormed agree

/-- Three tables, the second without rows. The column `id` may not be null in the tables that have it
and is missing in the third, which has the columns in another order; `quiz` may not be null
anywhere. -/
theorem concat_unites_of_three :
    IsUnion
      [⟨⟨[.mk "id" .int64 false, .mk "quiz" .utf8 false], [("origin", "3ppl")]⟩,
          [[[.whole 0, .text "Who?"]], [[.whole 1, .text ""]]]⟩,
        ⟨⟨[.mk "quiz" .utf8 false, .mk "id" .int64 false], []⟩, []⟩,
        ⟨⟨[.mk "tag" .bool true, .mk "quiz" .utf8 false], []⟩, [[[.null, .text "Why?"]]]⟩]
      ⟨⟨[.mk "id" .int64 true, .mk "quiz" .utf8 false, .mk "tag" .bool true], []⟩,
        [[[.whole 0, .text "Who?", .null]], [[.whole 1, .text "", .null]],
          [[.null, .text "Why?", .null]]]⟩ :=
  (concat_unites (by decide +kernel) ⟨_, List.mem_cons_self, by decide⟩).2.2 _ rfl

end Stacked

end Table

end PuzzlePrep

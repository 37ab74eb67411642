import Mathlib.Algebra.GroupWithZero.Nat
import PuzzlePrep.Proofs.Table.Rows

namespace PuzzlePrep.Table

theorem membersRestored?_conform {s : Schema} {columns : List Field} (apart : s.names.Nodup)
    (apart' : (columns.map Field.name).Nodup)
    (types : ∀ name type, columnType? s.columns name = some type →
      columnType? columns name = some type) {r : Row}
    (kept : Cell.membersRestored? (Fields.ofList s.columns) r = some r) :
    Cell.membersRestored? (Fields.ofList columns) (conform s columns r) =
      some (conform s columns r) := by
  refine Cell.membersRestored?_map fun f member => ?_
  cases null : (cellOf s f.name r).isNull with
  | true =>
    have empty : cellOf s f.name r = .null := by
      cases cell : cellOf s f.name r <;> simp_all [Cell.isNull]
    rw [empty]
    simp only [Cell.restored?]
  | false =>
    obtain ⟨g, inside, same⟩ := mem_zip_of_cellOf null
    rw [← type_eq_of_name apart apart' types member (List.of_mem_zip inside).1 same]
    exact Cell.restored?_of_mem_zip kept _ inside

section Concat

variable {tables : List Table} {merged : Table}

theorem rows_flatMap (tables : List Table) (change : Table → Row → Row) :
    (tables.flatMap fun t => t.batches.map fun b => b.map (change t)).flatten =
      tables.flatMap fun t => t.rows.map (change t) := by
  induction tables with
  | nil => rfl
  | cons t tables ih =>
    rw [List.flatMap_cons, List.flatten_append, ih, List.flatMap_cons, Table.rows, List.map_flatten]

theorem concat_eq_ok (h : concat tables = .ok merged) :
    (∃ columns, Schema.unite (tables.map Table.schema) = .ok columns ∧
      merged.schema = ⟨columns.map (Schema.relax (tables.map Table.schema)), []⟩) ∧
    merged.rows = tables.flatMap fun t => t.rows.map (conform t.schema merged.schema.columns) := by
  simp only [concat] at h
  obtain ⟨columns, united, h⟩ := bind_eq_ok.mp h
  split at h
  · cases h
  · cases h
    exact ⟨⟨columns, united, rfl⟩, rows_flatMap _ _⟩

theorem names_concat_nodup (h : concat tables = .ok merged) : merged.schema.names.Nodup := by
  obtain ⟨⟨columns, united, schema⟩, -⟩ := concat_eq_ok h
  rw [Schema.names, schema, Schema.names_relax]
  exact Schema.nodup_unite united

theorem columnType?_concat (h : concat tables = .ok merged) {t : Table} (member : t ∈ tables)
    {name : String} {type : ColumnType} (present : columnType? t.schema.columns name = some type) :
    columnType? merged.schema.columns name = some type := by
  obtain ⟨⟨columns, united, schema⟩, -⟩ := concat_eq_ok h
  rw [schema, Schema.columnType?_relax]
  exact Schema.columnType?_unite united (List.mem_map_of_mem member) present

theorem rowCount_concat (h : concat tables = .ok merged) :
    merged.rowCount = (tables.map Table.rowCount).sum := by
  rw [rowCount, (concat_eq_ok h).2, List.length_flatMap]
  simp only [List.length_map]
  rfl

theorem rowsJson_concat (h : concat tables = .ok merged)
    (apart : ∀ t ∈ tables, t.schema.names.Nodup) : merged.rowsJson = tables.flatMap rowsJson := by
  have apart' := names_concat_nodup h
  have notes : merged.schema = ⟨merged.schema.columns, []⟩ := by
    obtain ⟨⟨columns, -, schema⟩, -⟩ := concat_eq_ok h
    rw [schema]
  rw [rowsJson, (concat_eq_ok h).2, List.map_flatMap]
  refine List.flatMap_congr fun t member => ?_
  rw [rowsJson, List.map_map]
  refine List.map_congr_left fun r _ => ?_
  rw [Function.comp_apply, notes]
  exact rowJson_conform (apart t member) apart' (fun _ _ => columnType?_concat h member) r

/-- A file gives the whole back as it is if the tables came from files. -/
theorem restored?_concat (h : concat tables = .ok merged)
    (apart : ∀ t ∈ tables, t.schema.names.Nodup)
    (kept : ∀ t ∈ tables, ∀ r ∈ t.rows,
      Cell.membersRestored? (Fields.ofList t.schema.columns) r = some r) :
    ∀ r ∈ merged.rows, Cell.membersRestored? (Fields.ofList merged.schema.columns) r = some r := by
  intro r member
  rw [(concat_eq_ok h).2] at member
  obtain ⟨t, here, inside⟩ := List.mem_flatMap.mp member
  obtain ⟨r', row, rfl⟩ := List.mem_map.mp inside
  exact membersRestored?_conform (apart t here) (names_concat_nodup h)
    (fun _ _ => columnType?_concat h here) (kept t here r' row)

end Concat

end PuzzlePrep.Table

import Mathlib.Data.List.Perm.Lattice
import PuzzlePrep.Proofs.Json.Members
import PuzzlePrep.Proofs.Table.Columns
import PuzzlePrep.Proofs.Table.Restored
import PuzzlePrep.Table.Rows

namespace PuzzlePrep

def memberOf? (f : Field) (c : Cell) : Option (String × Json) :=
  if c.isNull then none else some (f.name, c.toJson f.type)

theorem membersJson_eq (fields : List Field) (cells : List Cell) :
    Cell.membersJson fields cells = (fields.zip cells).filterMap fun x => memberOf? x.1 x.2 := by
  induction cells generalizing fields with
  | nil => rw [Cell.membersJson, List.zip_nil_right, List.filterMap_nil]
  | cons c cells ih =>
    cases fields with
    | nil => rw [Cell.membersJson, List.zip_nil_left, List.filterMap_nil]
    | cons f fields =>
      rw [Cell.membersJson, ih, List.zip_cons_cons, List.filterMap_cons]
      cases null : c.isNull <;> simp [memberOf?, null]

theorem mem_membersJson {fields : List Field} {cells : List Cell} {m : String × Json} :
    m ∈ Cell.membersJson fields cells ↔
      ∃ f c, (f, c) ∈ fields.zip cells ∧ memberOf? f c = some m := by
  simp [membersJson_eq]

theorem membersJson_map (fields : List Field) (cell : Field → Cell) :
    Cell.membersJson fields (fields.map cell) = fields.filterMap fun f => memberOf? f (cell f) := by
  rw [membersJson_eq]
  induction fields with
  | nil => rfl
  | cons f fields ih => simp only [List.map_cons, List.zip_cons_cons, List.filterMap_cons, ih]

theorem memberOf?_eq_some_iff {f : Field} {c : Cell} {m : String × Json} :
    memberOf? f c = some m ↔ c.isNull = false ∧ (f.name, c.toJson f.type) = m := by
  simp [memberOf?]

theorem keys_membersJson_sublist (fields : List Field) (cells : List Cell) :
    ((Cell.membersJson fields cells).map Prod.fst).Sublist (fields.map Field.name) := by
  induction cells generalizing fields with
  | nil => simp [Cell.membersJson]
  | cons c cells ih =>
    cases fields with
    | nil => simp [Cell.membersJson]
    | cons f fields =>
      rw [Cell.membersJson, List.map_cons]
      split
      · exact (ih fields).cons f.name
      · exact (ih fields).cons_cons f.name

theorem get?_rowJson_of_missing {s : Schema} {name : String}
    (missing : columnType? s.columns name = none) (r : Row) : (s.rowJson r).get? name = none := by
  refine Json.Members.get?_of_not_mem fun inside => columnType?_eq_none_iff.mp missing ?_
  exact (keys_membersJson_sublist _ _).subset (Json.Members.mem_keys_ofList.mp inside)

def Schema.restoredJson? (s : Schema) (r : Row) : Option Json.Members :=
  (Cell.membersRestored? (Fields.ofList s.columns) r).map s.rowJson

namespace Table

@[simp] theorem rows_load_none (t : Table) : (t.load none).rows = t.rowsJson := rfl

@[simp] theorem rowsJson_batchesOf (s : Schema) (rows : List Row) :
    (Table.mk s (batchesOf rows)).rowsJson = rows.map s.rowJson := by
  rw [rowsJson, rows_batchesOf]

theorem mem_zip_of_cellOf {s : Schema} {name : String} {r : Row}
    (some : (cellOf s name r).isNull = false) :
    ∃ f, (f, cellOf s name r) ∈ s.columns.zip r ∧ f.name = name := by
  obtain ⟨columns, notes⟩ := s
  rw [cellOf] at some ⊢
  split at some
  · rename_i i found
    obtain ⟨inside, here, -⟩ := List.findIdx?_eq_some_iff_getElem.mp found
    by_cases present : i < r.length
    · rw [List.getD_eq_getElem?_getD, List.getElem?_eq_getElem present, Option.getD_some]
      refine ⟨columns[i], ?_, by simpa using here⟩
      rw [List.mem_iff_getElem]
      exact ⟨i, by simp [inside, present], by simp⟩
    · rw [List.getD_eq_getElem?_getD, List.getElem?_eq_none (by omega), Option.getD_none] at some
      cases some
  · cases some

theorem cellOf_of_mem_zip {s : Schema} (apart : s.names.Nodup) {r : Row} {f : Field} {c : Cell}
    (member : (f, c) ∈ s.columns.zip r) : cellOf s f.name r = c := by
  obtain ⟨i, inside, here⟩ := List.mem_iff_getElem.mp member
  simp only [List.length_zip, lt_min_iff] at inside
  simp only [List.getElem_zip, Prod.mk.injEq] at here
  obtain ⟨field, cell⟩ := here
  have found : s.columns.findIdx? (·.name == f.name) = some i := by
    rw [List.findIdx?_eq_some_iff_getElem]
    refine ⟨inside.1, by simp [field], ?_⟩
    intro j earlier
    have names : i < s.names.length := by simpa [Schema.names] using inside.1
    have other := (List.nodup_iff_injective_getElem.mp apart).ne
      (show (⟨j, earlier.trans names⟩ : Fin s.names.length) ≠ ⟨i, names⟩ by
        simpa using earlier.ne)
    simpa [Schema.names, field] using other
  simp only [cellOf, found, List.getD_eq_getElem?_getD, List.getElem?_eq_getElem inside.2,
    Option.getD_some, cell]

/-- The object of a row has a member for a column just where the cell is not null. -/
theorem get?_rowJson {s : Schema} (apart : s.names.Nodup) (name : String) (r : Row) :
    (s.rowJson r).get? name =
      if (cellOf s name r).isNull then none
      else (columnType? s.columns name).map fun type => (cellOf s name r).toJson type := by
  split
  · rename_i null
    refine Json.Members.get?_of_not_mem fun inside => ?_
    obtain ⟨m, member, rfl⟩ := List.mem_map.mp (Json.Members.mem_keys_ofList.mp inside)
    obtain ⟨f, c, place, made⟩ := mem_membersJson.mp member
    obtain ⟨some, rfl⟩ := memberOf?_eq_some_iff.mp made
    rw [cellOf_of_mem_zip apart place, some] at null
    cases null
  · rename_i some
    rw [Bool.not_eq_true] at some
    obtain ⟨f, place, rfl⟩ := mem_zip_of_cellOf some
    rw [columnType?_of_mem apart (List.of_mem_zip place).1, Option.map_some]
    refine Json.Members.get?_ofList ((keys_membersJson_sublist _ _).nodup apart) ?_
    exact mem_membersJson.mpr ⟨f, _, place, memberOf?_eq_some_iff.mpr ⟨some, rfl⟩⟩

theorem type_eq_of_name {s : Schema} {columns : List Field} (apart : s.names.Nodup)
    (apart' : (columns.map Field.name).Nodup)
    (types : ∀ name type, columnType? s.columns name = some type →
      columnType? columns name = some type) {f g : Field} (member : f ∈ columns)
    (inside : g ∈ s.columns) (same : g.name = f.name) : g.type = f.type := by
  have type := types _ _ (columnType?_of_mem apart inside)
  rw [same, columnType?_of_mem apart' member, Option.some.injEq] at type
  exact type.symm

/-- The same row under other columns, as long as they have its columns with their types. -/
theorem rowJson_conform {s : Schema} {columns : List Field} (apart : s.names.Nodup)
    (apart' : (columns.map Field.name).Nodup)
    (types : ∀ name type, columnType? s.columns name = some type →
      columnType? columns name = some type) (r : Row) :
    Schema.rowJson ⟨columns, []⟩ (conform s columns r) = s.rowJson r := by
  have keys : ((Cell.membersJson columns (conform s columns r)).map Prod.fst).Nodup :=
    (keys_membersJson_sublist _ _).nodup apart'
  have keys' : ((Cell.membersJson s.columns r).map Prod.fst).Nodup :=
    (keys_membersJson_sublist _ _).nodup apart
  -- The order of the members differs, but no key comes twice on either side.
  refine Json.Members.ofList_perm ?_ keys
  rw [List.perm_ext_iff_of_nodup keys.of_map keys'.of_map]
  intro m
  rw [conform, membersJson_map, mem_membersJson, List.mem_filterMap]
  simp only [memberOf?_eq_some_iff]
  constructor
  · rintro ⟨f, member, some, rfl⟩
    obtain ⟨g, inside, same⟩ := mem_zip_of_cellOf some
    have type := type_eq_of_name apart apart' types member (List.of_mem_zip inside).1 same
    exact ⟨g, _, inside, some, by rw [same, type]⟩
  · rintro ⟨g, c, inside, some, rfl⟩
    have type := types _ _ (columnType?_of_mem apart (List.of_mem_zip inside).1)
    obtain ⟨f, found, same⟩ := Option.map_eq_some_iff.mp type
    have name : f.name = g.name := by simpa using List.find?_some found
    have cell := cellOf_of_mem_zip apart inside
    refine ⟨f, List.mem_of_find?_eq_some found, ?_, ?_⟩
    · rw [name, cell]
      exact some
    · rw [name, cell, same]

end Table

end PuzzlePrep

import PuzzlePrep.Proofs.Record.Stored
import PuzzlePrep.Proofs.Table.File

namespace PuzzlePrep.Record

def fileOf (raw : Table) (split : Split) : Except Failure Content :=
  (toTable (ofRows (raw.load none).rows split) (schema raw.schema)).bind Table.fileContent

variable {raw : Table} {split : Split} {content : Content} {rows : List Row} {row : Row} {i : Nat}

theorem fileOf_eq_ok (h : fileOf raw split = .ok content) : ∃ rows,
    content = .table (schema raw.schema) rows ∧
    (ofRows raw.rowsJson split).mapM (fun r => (schema raw.schema).rowOfJson? r.toMembers) =
      some rows := by
  rw [fileOf, Table.rows_load_none, toTable] at h
  cases fit : (ofRows raw.rowsJson split).mapM fun r =>
      (schema raw.schema).rowOfJson? r.toMembers with
  | none =>
    rw [fit] at h
    cases h
  | some rows =>
    rw [fit] at h
    obtain ⟨-, rfl⟩ := Table.fileContent_eq_ok_iff.mp h
    rw [Table.rows_batchesOf]
    exact ⟨rows, rfl, rfl⟩

section Rows

variable (fit : (ofRows raw.rowsJson split).mapM
  (fun r => (schema raw.schema).rowOfJson? r.toMembers) = some rows)

include fit

theorem length_of_fit : rows.length = raw.rowCount := by
  rw [length_of_mapM fit, ofRows, List.length_map, List.length_zipIdx, Table.rowsJson,
    List.length_map, Table.rowCount]

theorem exists_record_of_fit (here : rows[i]? = some row) : ∃ source,
    (schema raw.schema).rowOfJson? (ofRow source split i).toMembers = some row := by
  rw [getElem?_of_mapM fit, Option.bind_eq_some_iff] at here
  obtain ⟨record, found, made⟩ := here
  rw [ofRows, List.getElem?_map, Option.map_eq_some_iff] at found
  obtain ⟨⟨source, index⟩, found, rfl⟩ := found
  rw [List.getElem?_zipIdx, Option.map_eq_some_iff] at found
  obtain ⟨source', -, same⟩ := found
  cases same
  rw [Nat.zero_add] at made
  exact ⟨source, made⟩

theorem cellOf_info (here : rows[i]? = some row) :
    Table.cellOf (schema raw.schema) "extra_info" row =
      .record [.text split.name, .whole (signed i)] := by
  obtain ⟨source, made⟩ := exists_record_of_fit fit here
  rw [Schema.rowOfJson?_eq] at made
  have place : (schema raw.schema).columns.findIdx? (·.name == "extra_info") = some 8 := by
    simp [schema, Field.name, List.findIdx?_cons]
  have column : (schema raw.schema).columns[8]? = some infoColumn := rfl
  have cell := getElem?_of_mapM made 8
  rw [column, Option.bind_some, cell?_info] at cell
  rw [Table.cellOf, place]
  simp [cell]

theorem get?_info_of_load {loaded : List Json.Members} {m : Json.Members}
    (load : rows.mapM (schema raw.schema).restoredJson? = some loaded) (here : loaded[i]? = some m) :
    m.get? "extra_info" = some (infoJson split i) := by
  rw [getElem?_of_mapM load, Option.bind_eq_some_iff] at here
  obtain ⟨row, there, restored⟩ := here
  obtain ⟨source, made⟩ := exists_record_of_fit fit there
  have stored : (schema raw.schema).stored? (ofRow source split i).toMembers = some m := by
    rw [Schema.stored?, made, Option.bind_some, restored]
  -- The column comes last, so that no other one can take the place of its member.
  have columns : (schema raw.schema).columns = (schema raw.schema).columns.dropLast ++ [infoColumn] :=
    rfl
  rw [Schema.stored?_eq, columns, List.mapM_append] at stored
  cases front : (schema raw.schema).columns.dropLast.mapM
      (storedMember? (ofRow source split i).toMembers) with
  | none =>
    rw [front] at stored
    cases stored
  | some members =>
    rw [front] at stored
    simp only [List.mapM_cons, List.mapM_nil, storedMember?_info, Option.pure_def,
      Option.bind_eq_bind, Option.bind_some, Option.map_some, List.filterMap_append,
      List.filterMap_cons, List.filterMap_nil, id, Json.Members.ofList_concat,
      Option.some.injEq] at stored
    rw [← stored, Json.Members.get?_insert_self]

end Rows

end PuzzlePrep.Record

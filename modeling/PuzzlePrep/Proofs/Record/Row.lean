import PuzzlePrep.Proofs.Record.File
import PuzzlePrep.Proofs.Table.Exact

namespace PuzzlePrep

theorem mapIdx_map {α β γ : Type} (items : List α) (g : α → β) (f : Nat → β → γ) :
    (items.map g).mapIdx f = items.mapIdx fun i a => f i (g a) := by
  apply List.ext_getElem?
  intro i
  simp only [List.getElem?_mapIdx, List.getElem?_map, Option.map_map]
  rfl

/-- A row without nulls has a member for every cell. -/
theorem membersJson_of_given {fields : List Field} {cells : List Cell}
    (given : ∀ c ∈ cells, c.isNull = false) : Cell.membersJson fields cells =
      (fields.zip cells).map fun x => (x.1.name, x.2.toJson x.1.type) := by
  rw [membersJson_eq, ← List.filterMap_eq_map]
  apply List.filterMap_congr
  intro x inside
  simp [memberOf?, given x.2 (List.of_mem_zip inside).2]

namespace Table

def itemTypes : List ColumnType := [.utf8, .largeUtf8, .bool, .int32, .int64, .uint64]

/-- The table lacks the column, or it lists strings, Booleans or whole numbers, with nulls anywhere. -/
def ListColumn (t : Table) (name : String) : Prop :=
  ∀ type, columnType? t.schema.columns name = some type →
    (∃ label item, type = .list (.mk label item true) ∧ item ∈ itemTypes) ∧
    ∀ r ∈ t.rows, Cell.Exact type (cellOf t.schema name r)

def listIn (s : Schema) (name : String) (r : Row) : Cell :=
  if (cellOf s name r).isNull then .list [] else cellOf s name r

theorem exists_type_of_cellOf {s : Schema} {name : String} {r : Row}
    (given : (cellOf s name r).isNull = false) : ∃ type, columnType? s.columns name = some type := by
  obtain ⟨f, inside, rfl⟩ := mem_zip_of_cellOf given
  cases present : columnType? s.columns f.name with
  | some type => exact ⟨type, rfl⟩
  | none =>
    have missing := columnType?_eq_none_iff.mp present
    exact absurd (List.mem_map_of_mem (List.of_mem_zip inside).1) missing

theorem isNull_listIn (s : Schema) (name : String) (r : Row) : (listIn s name r).isNull = false := by
  rw [listIn]
  split
  · rfl
  · rename_i given
    simpa using given

end Table

namespace Message

def toCell (m : Message) : Cell := .record [.text m.role, .text m.content]

theorem toJson_toCell (m : Message) : m.toCell.toJson Record.messageType = m.toJson := rfl

theorem exact_toCell (m : Message) : Cell.Exact Record.messageType m.toCell :=
  .recordOf (by decide) (.cons .utf8 (.cons .utf8 .nil))

end Message

namespace Record

theorem carried_eq (s : Schema) (name : String) (fallback : ColumnType) :
    carried s name fallback = (columnType? s.columns name).getD fallback := rfl

section List

variable {raw : Table} {name : String} (item : ColumnType) (lists : raw.ListColumn name)
  (plain : item ∈ Table.itemTypes)

include lists plain

theorem carried_eq_list : ∃ label item', carried raw.schema name (.listOf item) =
    .list (.mk label item' true) ∧ item' ∈ Table.itemTypes := by
  rw [carried_eq]
  cases present : columnType? raw.schema.columns name with
  | none => exact ⟨"item", item, rfl, plain⟩
  | some type => exact (lists type present).1

theorem storable_carried : (carried raw.schema name (.listOf item)).storable = true := by
  obtain ⟨label, item', type, plain'⟩ := carried_eq_list item lists plain
  rw [type]
  simp only [Table.itemTypes, List.mem_cons, List.not_mem_nil, or_false] at plain'
  rcases plain' with rfl | rfl | rfl | rfl | rfl | rfl <;> rfl

theorem exact_listIn {r : Row} (member : r ∈ raw.rows) :
    Cell.Exact (carried raw.schema name (.listOf item)) (Table.listIn raw.schema name r) := by
  rw [Table.listIn]
  split
  · obtain ⟨label, item', type, -⟩ := carried_eq_list item lists plain
    rw [type]
    exact .list (by simp)
  · rename_i given
    obtain ⟨type, present⟩ := Table.exists_type_of_cellOf (by simpa using given)
    rw [carried_eq, present, Option.getD_some]
    exact (lists type present).2 r member

theorem toJson_listIn (apart : raw.schema.names.Nodup) (r : Row) :
    (Table.listIn raw.schema name r).toJson (carried raw.schema name (.listOf item)) =
      ((raw.schema.rowJson r).get? name).getD (.arr []) := by
  rw [Table.get?_rowJson apart, Table.listIn]
  split
  · obtain ⟨label, item', type, -⟩ := carried_eq_list item lists plain
    rw [type, Option.getD_none]
    simp [Cell.toJson, Cell.itemsJson]
  · rename_i given
    obtain ⟨type, present⟩ := Table.exists_type_of_cellOf (by simpa using given)
    rw [carried_eq, present, Option.getD_some, Option.map_some, Option.getD_some]

end List

def toRow (r : Record) (names solution : Cell) : Row :=
  [.text r.dataSource, .list (r.prompt.map Message.toCell), r.response.toCell, names, solution,
    .text r.solutionText, .text r.ability,
    .record [.text "rule", .record [.text r.truth.solution, .text r.truth.statements]],
    .record [.text r.split.name, .whole r.index]]

theorem rowJson_toRow {raw : Schema} {r : Record} {names solution : Cell}
    (given : names.isNull = false) (given' : solution.isNull = false)
    (same : names.toJson (carried raw "names" (.listOf .utf8)) = r.names)
    (same' : solution.toJson (carried raw "solution" (.listOf .bool)) = r.solution) :
    (schema raw).rowJson (r.toRow names solution) = r.toMembers := by
  have none : ∀ c ∈ r.toRow names solution, c.isNull = false := by
    intro c member
    simp only [toRow, List.mem_cons, List.not_mem_nil, or_false] at member
    rcases member with rfl | rfl | rfl | rfl | rfl | rfl | rfl | rfl | rfl
    case inr.inr.inr.inl => exact given
    case inr.inr.inr.inr.inl => exact given'
    all_goals rfl
  have prompt : Cell.toJson (.listOf messageType) (.list (r.prompt.map Message.toCell)) =
      .arr (r.prompt.map Message.toJson) := by
    simp [Cell.toJson, ColumnType.listOf, Field.type, Cell.itemsJson_eq_map, Message.toJson_toCell]
  rw [Schema.rowJson, membersJson_of_given none]
  simp only [schema, toRow, List.map_cons, List.map_nil, List.zip_cons_cons, List.zip_nil_right,
    Field.name, Field.type, same, same', prompt]
  rfl

theorem exact_toRow {raw : Schema} {r : Record} {names solution : Cell}
    (index : Number.isSigned r.index = true)
    (exact : Cell.Exact (carried raw "names" (.listOf .utf8)) names)
    (exact' : Cell.Exact (carried raw "solution" (.listOf .bool)) solution) :
    Cell.Exact (.struct (Fields.ofList (schema raw).columns)) (.record (r.toRow names solution)) := by
  have prompt : Cell.Exact (.listOf messageType) (.list (r.prompt.map Message.toCell)) := by
    refine .list fun c member => ?_
    obtain ⟨m, -, rfl⟩ := List.mem_map.mp member
    exact m.exact_toCell
  have truth : Cell.Exact (.recordOf [("solution_text_format", .utf8), ("statements", .utf8)])
      (.record [.text r.truth.solution, .text r.truth.statements]) :=
    .recordOf (by decide) (.cons .utf8 (.cons .utf8 .nil))
  have model : Cell.Exact (.recordOf [("style", .utf8), ("ground_truth",
        .recordOf [("solution_text_format", .utf8), ("statements", .utf8)])])
      (.record [.text "rule", .record [.text r.truth.solution, .text r.truth.statements]]) :=
    .recordOf (by decide) (.cons .utf8 (.cons truth .nil))
  have info : Cell.Exact (.recordOf [("split", .utf8), ("index", .int64)])
      (.record [.text r.split.name, .whole r.index]) :=
    .recordOf (by decide) (.cons .utf8 (.cons (.int64 index) .nil))
  exact Cell.Exact.recordOf (by simp) (.cons .utf8 (.cons prompt (.cons r.response.exact_toCell
    (.cons exact (.cons exact' (.cons .utf8 (.cons .utf8 (.cons model (.cons info .nil)))))))))

theorem cellOf_toRow (raw : Schema) (r : Record) (names solution : Cell) :
    Table.cellOf (schema raw) "names" (r.toRow names solution) = names ∧
      Table.cellOf (schema raw) "solution" (r.toRow names solution) = solution := ⟨rfl, rfl⟩

def rowOf (raw : Schema) (r : Row) (split : Split) (index : Nat) : Row :=
  (ofRow (raw.rowJson r) split index).toRow (Table.listIn raw "names" r)
    (Table.listIn raw "solution" r)

/-- The training data for a raw table, as it is read from a file. -/
def tableOf (raw : Table) (split : Split) : Table where
  schema := schema raw.schema
  batches := Table.batchesOf (raw.rows.mapIdx fun i r => rowOf raw.schema r split i)

theorem ofRows_eq (rows : List Json.Members) (split : Split) :
    ofRows rows split = rows.mapIdx fun i row => ofRow row split i := by
  rw [List.mapIdx_eq_zipIdx_map]
  rfl

section Table

variable (raw : Table) (split : Split)

theorem ofRows_rowsJson : ofRows raw.rowsJson split =
    raw.rows.mapIdx fun i r => ofRow (raw.schema.rowJson r) split i := by
  rw [ofRows_eq, Table.rowsJson, mapIdx_map]

@[simp] theorem rows_tableOf : (tableOf raw split).rows =
    raw.rows.mapIdx fun i r => rowOf raw.schema r split i := Table.rows_batchesOf _ _

theorem map_cellOf_tableOf {name : String} (member : name ∈ ["names", "solution"]) :
    (tableOf raw split).rows.map (Table.cellOf (tableOf raw split).schema name) =
      raw.rows.map (Table.listIn raw.schema name) := by
  apply List.ext_getElem?
  intro i
  simp only [rows_tableOf, List.getElem?_map, List.getElem?_mapIdx, Option.map_map]
  congr 1
  funext r
  have cells := cellOf_toRow raw.schema (ofRow (raw.schema.rowJson r) split i)
    (Table.listIn raw.schema "names" r) (Table.listIn raw.schema "solution" r)
  simp only [List.mem_cons, List.not_mem_nil, or_false] at member
  rcases member with rfl | rfl
  · exact cells.1
  · exact cells.2

end Table

section Lists

variable {raw : Table} (names : raw.ListColumn "names") (solution : raw.ListColumn "solution")
  (split : Split)

include names solution

theorem exact_rowOf {r : Row} (member : r ∈ raw.rows) (index : Nat) :
    Cell.Exact (.struct (Fields.ofList (schema raw.schema).columns))
      (.record (rowOf raw.schema r split index)) := by
  rw [rowOf]
  apply exact_toRow
  · simpa only [ofRow] using isSigned_signed index
  · exact exact_listIn .utf8 names (by decide) member
  · exact exact_listIn .bool solution (by decide) member

theorem restored?_tableOf : (tableOf raw split).restored? = some (tableOf raw split) := by
  refine Table.restored?_self fun row member => ?_
  rw [rows_tableOf] at member
  obtain ⟨i, inside, rfl⟩ := List.mem_mapIdx.mp member
  exact (exact_rowOf names solution split (List.getElem_mem inside) i).membersRestored?

theorem storable_schema : (schema raw.schema).columns.all (·.type.storable) = true := by
  have names := storable_carried .utf8 names (by decide)
  have solution := storable_carried .bool solution (by decide)
  simp only [schema, List.map_cons, List.map_nil, List.all_cons, List.all_nil, Field.type, names,
    solution]
  rfl

variable (apart : raw.schema.names.Nodup)

include apart

theorem rowJson_rowOf (r : Row) (index : Nat) :
    (schema raw.schema).rowJson (rowOf raw.schema r split index) =
      (ofRow (raw.schema.rowJson r) split index).toMembers :=
  rowJson_toRow (Table.isNull_listIn _ _ r) (Table.isNull_listIn _ _ r)
    (toJson_listIn .utf8 names (by decide) apart r)
    (toJson_listIn .bool solution (by decide) apart r)

theorem rowsJson_tableOf : (tableOf raw split).rowsJson =
    raw.rowsJson.mapIdx fun i row => (ofRow row split i).toMembers := by
  apply List.ext_getElem?
  intro i
  simp only [Table.rowsJson, rows_tableOf, List.getElem?_map, List.getElem?_mapIdx, Option.map_map]
  congr 1
  funext r
  exact rowJson_rowOf names solution split apart r i

/-- Every raw row fits as a record, so that all of them are written. -/
theorem fileOf_of_lists : fileOf raw split = .ok (.ofTable (tableOf raw split)) := by
  have fit : ((ofRows raw.rowsJson split).mapM fun r => (schema raw.schema).rowOfJson? r.toMembers) =
      some (raw.rows.mapIdx fun i r => rowOf raw.schema r split i) := by
    rw [ofRows_rowsJson]
    refine mapM_mapIdx fun i r member => ?_
    have read := Schema.rowOfJson?_rowJson (exact_rowOf names solution split member i)
    rwa [rowJson_rowOf names solution split apart] at read
  rw [fileOf, Table.rows_load_none, toTable, fit]
  exact Table.fileContent_eq_ok_iff.mpr ⟨storable_schema names solution, rfl⟩

end Lists

end Record

end PuzzlePrep

import PuzzlePrep.Proofs.Table.File

namespace PuzzlePrep

/-- The object has a member for each column where the row has a cell that is not null, and no other. -/
def Schema.Shows (s : Schema) (r : Row) (m : Json.Members) : Prop :=
  ∀ name, name ∈ m.map Prod.fst ↔ name ∈ s.names ∧ (Table.cellOf s name r).isNull = false

namespace Table

def Loaded.first (l : Loaded) (n : Nat) : Loaded := ⟨l.columns, l.rows.take n⟩

/-- Behind `count` rows, no batch that is passed over would have come into the first `limit`. -/
theorem take_loadBatches (s : Schema) (limit count : Nat) (batches : List (List Row)) :
    (loadBatches s limit count batches).take (limit - count) =
      (batches.flatten.map s.rowJson).take (limit - count) := by
  induction batches generalizing count with
  | nil => rfl
  | cons batch more ih =>
    rw [loadBatches]
    split
    · rename_i full
      rw [Nat.sub_eq_zero_of_le full, List.take_zero, List.take_zero]
    · rw [List.flatten_cons, List.map_append, List.take_append, List.take_append,
        List.length_map, Nat.sub_sub, ih]

theorem load_some (t : Table) (n : Nat) : t.load (some n) = (t.load none).first n := by
  have first := take_loadBatches t.schema n 0 t.batches
  rw [Nat.sub_zero] at first
  simp only [load, first, Loaded.first, rowsJson, rows]

theorem load_congr {t t' : Table} (schema : t'.schema = t.schema) (rows : t'.rows = t.rows)
    (limit : Option Nat) : t'.load limit = t.load limit := by
  have whole : t'.load none = t.load none := by
    simp only [load, rowsJson, schema, rows]
  cases limit with
  | none => exact whole
  | some n => rw [load_some, load_some, whole]

theorem shows_rowJson {s : Schema} (apart : s.names.Nodup) (r : Row) : s.Shows r (s.rowJson r) := by
  intro name
  rw [Schema.rowJson, Json.Members.mem_keys_ofList]
  constructor
  · intro inside
    refine ⟨(keys_membersJson_sublist _ _).subset inside, ?_⟩
    obtain ⟨m, member, rfl⟩ := List.mem_map.mp inside
    obtain ⟨f, c, place, made⟩ := mem_membersJson.mp member
    obtain ⟨some, rfl⟩ := memberOf?_eq_some_iff.mp made
    rw [cellOf_of_mem_zip apart place, some]
  · rintro ⟨-, some⟩
    obtain ⟨f, place, rfl⟩ := mem_zip_of_cellOf some
    exact List.mem_map.mpr ⟨_, mem_membersJson.mpr ⟨f, _, place,
      memberOf?_eq_some_iff.mpr ⟨some, rfl⟩⟩, rfl⟩

theorem shows_load {t : Table} (apart : t.schema.names.Nodup) :
    List.Forall₂ t.schema.Shows t.rows (t.load none).rows := by
  rw [rows_load_none, rowsJson, List.forall₂_map_right_iff]
  exact List.forall₂_same.mpr fun r _ => shows_rowJson apart r

end Table

namespace Tree

theorem rowCount_of_table {t : Tree} {p : Path} {table : Table} (read : t.table p = .ok table) :
    t.rowCount p = .ok table.rows.length := by
  obtain ⟨written, found, restored⟩ := table_eq_ok_iff.mp read
  have rows := Table.map_rows_restored? written
  rw [restored] at rows
  simp only [Tree.rowCount, found, Table.rowCount, length_of_mapM rows.symm]

end Tree

namespace Disk

variable {t t' : Tree} {p : Path} {full : Table.Loaded}

theorem loadTable_on_ok {limit : Option Nat} : (loadTable p limit).on t = (.ok full, t') ↔
    ∃ table, t.table p = .ok table ∧ table.load limit = full ∧ t' = t := by
  rw [loadTable, bind_on_ok]
  constructor
  · rintro ⟨table, between, read, last⟩
    obtain ⟨found, rfl⟩ := readTable_on_ok.mp read
    cases last
    exact ⟨table, found, rfl, rfl⟩
  · rintro ⟨table, found, rfl, rfl⟩
    exact ⟨table, t', readTable_on_ok.mpr ⟨found, rfl⟩, rfl⟩

/-- A load with a limit gives the first rows of the load without one, wherever that succeeds and however
the rows are cut into batches. The whole load has an object for every row of the table, in order, with a
member for just those columns whose cell is not null. -/
theorem loadTable_some (loaded : (loadTable p none).on t = (.ok full, t')) :
    (∀ n, (loadTable p (some n)).on t = (.ok (full.first n), t)) ∧
      ∃ table, t.table p = .ok table ∧ full.columns = table.schema.names ∧
        t.rowCount p = .ok full.rows.length ∧ full.rows.length = table.rows.length ∧
        (table.schema.names.Nodup → List.Forall₂ table.schema.Shows table.rows full.rows) ∧
        ∀ batches, batches.flatten = table.rows → ∀ n,
          (Table.mk table.schema batches).load (some n) = full.first n := by
  obtain ⟨table, read, rfl, rfl⟩ := loadTable_on_ok.mp loaded
  have length : (table.load none).rows.length = table.rows.length := by
    rw [Table.rows_load_none, Table.rowsJson, List.length_map]
  refine ⟨?_, table, read, rfl, ?_, length, Table.shows_load, ?_⟩
  · intro n
    exact loadTable_on_ok.mpr ⟨table, read, Table.load_some table n, rfl⟩
  · rw [length]
    exact Tree.rowCount_of_table read
  · intro batches same n
    have schema : (Table.mk table.schema batches).schema = table.schema := rfl
    rw [Table.load_congr schema same, Table.load_some]

def levels : Table where
  schema := ⟨[.mk "quiz" .utf8 true, .mk "level" .int64 true], []⟩
  batches := [[[.text "Who?", .whole 3], [.null, .whole 4], [.text "Why?", .null]]]

def levelTree : Tree where
  workdir := ["work"]
  entries := [
    (["work"], .directory), (["work", "levels.parquet"], .file (.ofTable levels) false)]

/-- The first two of the three rows, also where the limit lies inside a batch. -/
theorem loadTable_some_of_levels : ∃ full : Table.Loaded,
    (loadTable ⟨"levels.parquet"⟩ none).on levelTree = (.ok full, levelTree) ∧
    full.rows = [[("level", Json.whole 3), ("quiz", .str "Who?")], [("level", Json.whole 4)],
      [("quiz", .str "Why?")]] ∧
    (loadTable ⟨"levels.parquet"⟩ (some 2)).on levelTree = (.ok (full.first 2), levelTree) ∧
    levels.schema.names.Nodup ∧ List.Forall₂ levels.schema.Shows levels.rows full.rows ∧
    (Table.mk levels.schema [levels.rows.take 1, levels.rows.drop 1]).load (some 2) =
      full.first 2 := by
  have loaded : (loadTable ⟨"levels.parquet"⟩ none).on levelTree =
    (.ok ⟨["quiz", "level"], [[("level", Json.whole 3), ("quiz", .str "Who?")],
      [("level", Json.whole 4)], [("quiz", .str "Why?")]]⟩, levelTree) := rfl
  have apart : levels.schema.names.Nodup := by decide
  obtain ⟨first, table, read, -, -, -, shows, cut⟩ := loadTable_some loaded
  have same : levelTree.table ⟨"levels.parquet"⟩ = .ok levels := rfl
  cases same.symm.trans read
  exact ⟨_, loaded, rfl, first 2, apart, shows apart, cut [_, _] rfl 2⟩

end Disk

end PuzzlePrep

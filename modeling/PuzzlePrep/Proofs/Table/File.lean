import PuzzlePrep.Proofs.Files.Atomic
import PuzzlePrep.Proofs.Table.Rows
import PuzzlePrep.Table.File

namespace PuzzlePrep

def orBroken {α : Type} : Option α → Except Failure α
  | some a => .ok a
  | none => .error .brokenList

theorem map_orBroken {α β : Type} (o : Option α) (f : α → β) :
    (orBroken o).map f = orBroken (o.map f) := by
  cases o <;> rfl

theorem mapM_orBroken {α β : Type} (items : List α) (f : α → Option β) :
    (items.mapM fun a => orBroken (f a)) = orBroken (items.mapM f) := by
  induction items with
  | nil => rfl
  | cons a items ih =>
    rw [List.mapM_cons, List.mapM_cons, ih]
    cases f a with
    | none => rfl
    | some b => cases items.mapM f <;> rfl

namespace Tree

def load (t : Tree) (p : Path) : Except Failure (List Json.Members) :=
  (t.table p).map fun table => (table.load none).rows

variable {t t' : Tree} {p : Path} {table : Table}

theorem written_eq_ok_iff : t.written p = .ok table ↔ ∃ l content executable,
    t.find p = .ok (l, .file content executable) ∧ content.table? = some table := by
  rw [written]
  constructor
  · intro h
    split at h
    · cases h
    · cases h
    · rename_i l content executable found
      split at h
      · rename_i table' read
        cases h
        exact ⟨l, content, executable, found, read⟩
      · cases h
  · rintro ⟨l, content, executable, found, read⟩
    simp only [found, read]

theorem table_eq_ok_iff : t.table p = .ok table ↔
    ∃ written, t.written p = .ok written ∧ written.restored? = some table := by
  rw [Tree.table, bind_eq_ok]
  refine exists_congr fun written => and_congr_right fun _ => ?_
  cases written.restored? with
  | none => exact ⟨nofun, nofun⟩
  | some found => exact ⟨fun h => congrArg some (Except.ok.inj h), fun h => by cases h; rfl⟩

theorem kept_of_table (h : t.table p = .ok table) :
    ∀ r ∈ table.rows, Cell.membersRestored? (Fields.ofList table.schema.columns) r = some r := by
  obtain ⟨written, -, restored⟩ := table_eq_ok_iff.mp h
  exact Table.membersRestored?_of_mem_rows restored

theorem table_of_find {l : Location} {s : Schema} {rows : List Row} {executable : Bool}
    (found : t.find p = .ok (l, .file (.table s rows) executable)) :
    t.table p = .ok table ↔ (Table.mk s (Table.batchesOf rows)).restored? = some table := by
  have written : t.written p = .ok ⟨s, Table.batchesOf rows⟩ :=
    written_eq_ok_iff.mpr ⟨l, _, executable, found, rfl⟩
  rw [table_eq_ok_iff, written]
  simp

theorem table_of_written {written : Table} (h : t.written p = .ok written) :
    t.table p = orBroken written.restored? := by
  rw [Tree.table, h, ok_bind]
  cases written.restored? <;> rfl

theorem load_of_find {l : Location} {s : Schema} {rows : List Row} {executable : Bool}
    (found : t.find p = .ok (l, .file (.table s rows) executable)) :
    t.load p = orBroken (rows.mapM s.restoredJson?) := by
  have written : t.written p = .ok ⟨s, Table.batchesOf rows⟩ :=
    written_eq_ok_iff.mpr ⟨l, _, executable, found, rfl⟩
  have read := Table.map_rows_restored? ⟨s, Table.batchesOf rows⟩
  rw [Table.rows_batchesOf] at read
  change _ = orBroken (rows.mapM fun r => (Cell.membersRestored? _ r).map s.rowJson)
  rw [mapM_map, ← read, load, table_of_written written, map_orBroken]
  congr 1
  cases back : (Table.mk s (Table.batchesOf rows)).restored? with
  | none => rfl
  | some table =>
    have schema : table.schema = s := (Table.restored?_eq_some_iff.mp back).2
    simp only [Option.map_some, Table.rows_load_none, Table.rowsJson, schema]

theorem table_congr (same : t'.find p = t.find p) : t'.table p = t.table p := by
  rw [Tree.table, Tree.table, Tree.written, Tree.written, same]

theorem has_congr (same : t'.find p = t.find p) : t'.has p = t.has p := by rw [has, has, same]

end Tree

namespace Table

theorem fileContent_eq_ok_iff {t : Table} {content : Content} : t.fileContent = .ok content ↔
    t.schema.columns.all (·.type.storable) = true ∧ content = .table t.schema t.rows := by
  rw [fileContent]
  split
  · rename_i storable
    simp [storable, Content.ofTable, eq_comm]
  · rename_i storable
    simp [storable]

end Table

namespace Disk

variable {t t' : Tree} {p : Path} {table : Table}

theorem readTable_on_ok : (readTable p).on t = (.ok table, t') ↔ t.table p = .ok table ∧ t' = t := by
  rw [readTable, on_bind, on_get]
  dsimp only
  cases t.table p with
  | error f => simp
  | ok found => simp [eq_comm]

theorem writeTable_on_ok : (writeTable p table).on t = (.ok (), t') ↔
    ∃ content, table.fileContent = .ok content ∧
      (writeAtomically p (.ok content)).on t = (.ok (), t') := by
  rw [writeTable]
  constructor
  · intro h
    obtain ⟨content, _, _, given, -⟩ := written_of_writeAtomically h
    exact ⟨content, given, given ▸ h⟩
  · rintro ⟨content, given, h⟩
    rw [given]
    exact h

theorem load_of_writeTable (ran : (writeTable p table).on t = (.ok (), t')) :
    t'.load p = orBroken (table.rows.mapM table.schema.restoredJson?) := by
  obtain ⟨content, origin, goal, given, written⟩ := written_of_writeAtomically ran
  obtain ⟨-, rfl⟩ := Table.fileContent_eq_ok_iff.mp given
  obtain ⟨executable, found⟩ := written.find
  exact Tree.load_of_find found

end Disk

end PuzzlePrep

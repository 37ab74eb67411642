import PuzzlePrep.Proofs.Files.Layout
import PuzzlePrep.Proofs.Table.Concat
import PuzzlePrep.Proofs.Table.File
import PuzzlePrep.Stage.Merge

namespace PuzzlePrep

open PuzzlePrep.Tree

/-- The files that sources have of a split, in the order of the list, and the tables in them. -/
structure SourceFiles (t : Tree) (l : Layout) (split : Split) (sources : List Partition)
    (found : List (Partition × Table)) : Prop where
  partitions : found.map Prod.fst = sources.filter fun p => t.has (l.file p split)
  tables : ∀ e ∈ found, t.table (l.file e.1 split) = .ok e.2

def ColumnsApart (t : Tree) (l : Layout) (split : Split) (sources : List Partition) : Prop :=
  ∀ p ∈ sources, ∀ table, t.table (l.file p split) = .ok table → table.schema.names.Nodup

instance (t : Tree) (l : Layout) (split : Split) (sources : List Partition) :
    Decidable (ColumnsApart t l split sources) :=
  decidable_of_iff
    (∀ p ∈ sources, (t.table (l.file p split)).toOption.all fun table => table.schema.names.Nodup) <| by
    refine forall₂_congr fun p _ => ?_
    cases t.table (l.file p split) <;> simp [Except.toOption]

section Sources

variable {t t' : Tree} {l : Layout} {split : Split} {sources : List Partition}
  {found : List (Partition × Table)} {root : Location}

theorem sourceTables_eq_ok_iff :
    t.sourceTables l split sources = .ok found ↔ SourceFiles t l split sources found := by
  induction sources generalizing found with
  | nil =>
    simp only [Tree.sourceTables, Except.ok.injEq]
    constructor
    · rintro rfl
      exact ⟨rfl, by simp⟩
    · rintro ⟨none, -⟩
      exact (List.map_eq_nil_iff.mp none).symm
  | cons p sources ih =>
    rw [Tree.sourceTables]
    cases has : t.has (l.file p split) with
    | false =>
      simp only [Bool.false_eq_true, if_false, ih]
      exact ⟨fun h => ⟨by simpa [has] using h.partitions, h.tables⟩,
        fun h => ⟨by simpa [has] using h.partitions, h.tables⟩⟩
    | true =>
      simp only [if_true]
      constructor
      · intro h
        obtain ⟨table, read, h⟩ := bind_eq_ok.mp h
        obtain ⟨others, rest, h⟩ := bind_eq_ok.mp h
        cases h
        obtain ⟨partitions, tables⟩ := ih.mp rest
        exact ⟨by simp [has, partitions], List.forall_mem_cons.mpr ⟨read, tables⟩⟩
      · rintro ⟨partitions, tables⟩
        simp only [List.filter_cons, has, if_true] at partitions
        obtain ⟨⟨q, table⟩, others, rfl, rfl, rest⟩ := List.map_eq_cons_iff.mp partitions
        obtain ⟨read, tables⟩ := List.forall_mem_cons.mp tables
        refine bind_eq_ok.mpr ⟨table, read, bind_eq_ok.mpr ⟨others, ih.mpr ⟨rest, tables⟩, rfl⟩⟩

/-- A file of the layout can only be there where the root is. -/
theorem rootOf_of_has {p : Partition} (has : t.has (l.file p split) = true) :
    ∃ root, t.rootOf l = .ok root := by
  cases leads : t.spot (l.file p split) with
  | error f =>
    rw [Tree.has, Tree.find, leads] at has
    cases has
  | ok spot =>
    obtain ⟨-, -, root, found, -⟩ := (spot_inside_eq_ok_iff split.plainName).mp leads
    exact ⟨root, found⟩

theorem SourceFiles.mem (h : SourceFiles t l split sources found) {e : Partition × Table}
    (member : e ∈ found) : e.1 ∈ sources ∧ t.has (l.file e.1 split) = true := by
  have inside : e.1 ∈ found.map Prod.fst := List.mem_map_of_mem member
  rw [h.partitions, List.mem_filter] at inside
  exact inside

theorem SourceFiles.eq_nil_iff (h : SourceFiles t l split sources found) :
    found = [] ↔ ∀ p ∈ sources, t.has (l.file p split) = false := by
  rw [← List.map_eq_nil_iff (f := Prod.fst), h.partitions, List.filter_eq_nil_iff]
  simp

theorem SourceFiles.rootOf (h : SourceFiles t l split sources found) (some : found ≠ []) :
    ∃ root, t.rootOf l = .ok root := by
  obtain ⟨e, member⟩ := List.exists_mem_of_ne_nil _ some
  exact rootOf_of_has (h.mem member).2

theorem SourceFiles.congr (h : SourceFiles t l split sources found)
    (same : ∀ p ∈ sources, t'.find (l.file p split) = t.find (l.file p split)) :
    SourceFiles t' l split sources found := by
  constructor
  · rw [h.partitions]
    exact List.filter_congr fun p member => (has_congr (same p member)).symm
  · intro e member
    rw [table_congr (same e.1 (h.mem member).1)]
    exact h.tables e member

end Sources

theorem Disk.WrittenFile.find_other {t t' : Tree} {l : Layout} {p q : Partition} {s : Split}
    {content : Content} {root : Location} (h : WrittenFile l p s content root t t')
    (rooted : t.rootOf l = .ok root) (differ : q ≠ p) (s' : Split) :
    t'.find (l.file q s') = t.find (l.file q s') := by
  have names : q.name ≠ p.name := fun same => differ (Partition.name_injective same)
  refine find_file_congr rooted h.rooted (h.other _ ?_ ?_ ?_) (h.other _ ?_ ?_ ?_)
  all_goals
    intro same
    have parts := List.append_cancel_left same
    simp [names] at parts

theorem SourceFiles.of_written {t t' : Tree} {l : Layout} {split split' : Split}
    {sources : List Partition} {found : List (Partition × Table)} {output : Partition}
    {content : Content} {root : Location} (h : SourceFiles t l split sources found)
    (differ : output ∉ sources) (rooted : t.rootOf l = .ok root)
    (written : Disk.WrittenFile l output split' content root t t') :
    SourceFiles t' l split sources found := by
  refine h.congr fun p member => written.find_other rooted ?_ split
  rintro rfl
  exact differ member

namespace Disk

variable {t t' : Tree} {l : Layout} {sources : List Partition} {output : Partition} {split : Split}
  {outcome : MergeOutcome} {found : List (Partition × Table)}

def outcomeOf (path : Path) (found : List (Partition × Table)) : MergeOutcome :=
  .written path (found.map fun e => e.2.rowCount).sum (found.map fun e => ⟨e.1, e.2.rowCount⟩)

theorem mergeSplit_on_of_found (files : SourceFiles t l split sources found) :
    (mergeSplit l sources output split).on t = (.ok outcome, t') ↔
      found = [] ∧ outcome = .noData ∧ t' = t ∨
        found ≠ [] ∧ outcome = outcomeOf (l.file output split) found ∧
          ∃ merged, Table.concat (found.map Prod.snd) = .ok merged ∧
            (writeTable (l.file output split) merged).on t = (.ok (), t') := by
  rw [mergeSplit, on_bind, on_get]
  dsimp only
  rw [sourceTables_eq_ok_iff.mpr files]
  cases found with
  | nil => simp [eq_comm]
  | cons e rest =>
    simp only [reduceCtorEq, false_and, false_or, ne_eq, not_false_eq_true, true_and]
    cases merged : Table.concat ((e :: rest).map Prod.snd) with
    | error f => simp
    | ok table =>
      have count : table.rowCount = ((e :: rest).map fun e => e.2.rowCount).sum := by
        rw [Table.rowCount_concat merged, List.map_map]
        rfl
      simp only [bind_on_ok, on_pure, Prod.mk.injEq, Except.ok.injEq, exists_eq_left', count]
      constructor
      · rintro ⟨⟨⟩, _, ran, rfl, rfl⟩
        exact ⟨rfl, ran⟩
      · rintro ⟨rfl, ran⟩
        exact ⟨(), t', ran, rfl, rfl⟩

theorem mergeSplit_on_ok : (mergeSplit l sources output split).on t = (.ok outcome, t') ↔
    ∃ found, SourceFiles t l split sources found ∧
      (found = [] ∧ outcome = .noData ∧ t' = t ∨
        found ≠ [] ∧ outcome = outcomeOf (l.file output split) found ∧
          ∃ merged, Table.concat (found.map Prod.snd) = .ok merged ∧
            (writeTable (l.file output split) merged).on t = (.ok (), t')) := by
  constructor
  · intro h
    cases read : t.sourceTables l split sources with
    | error f =>
      rw [mergeSplit, on_bind, on_get] at h
      dsimp only at h
      rw [read] at h
      cases h
    | ok found =>
      have files := sourceTables_eq_ok_iff.mp read
      exact ⟨found, files, (mergeSplit_on_of_found files).mp h⟩
  · rintro ⟨found, files, h⟩
    exact (mergeSplit_on_of_found files).mpr h

theorem WrittenFile.fileAt {p : Partition} {content : Content} {root : Location}
    {write : Except Failure Content} (h : WrittenFile l p split content root t t')
    (ran : (writeAtomically (l.file p split) write).on t = (.ok (), t')) :
    t'.FileAt (l.file p split).temporary (root ++ [p.name, split.fileName ++ ".tmp"]) ∧
      t'.FileAt (l.file p split) (root ++ [p.name, split.fileName]) := by
  obtain ⟨_, origin, goal, -, left⟩ := written_of_writeAtomically ran
  have sibling := left.sibling
  have target := left.target
  rw [temporary_file] at sibling
  obtain ⟨-, root₁, found₁, -, rfl⟩ := fileAt_inside split.plainName_temporary sibling
  obtain ⟨-, root₂, found₂, -, rfl⟩ := fileAt_inside split.plainName target
  rw [h.rooted] at found₁ found₂
  cases found₁
  cases found₂
  exact ⟨left.sibling, left.target⟩

theorem WrittenFile.table {p : Partition} {schema : Schema} {rows : List Row} {root : Location}
    (h : WrittenFile l p split (.table schema rows) root t t')
    (kept : ∀ r ∈ rows, Cell.membersRestored? (Fields.ofList schema.columns) r = some r) :
    t'.table (l.file p split) = .ok ⟨schema, Table.batchesOf rows⟩ := by
  obtain ⟨executable, there⟩ := h.find
  refine (table_of_find there).mpr (Table.restored?_self ?_)
  rw [Table.rows_batchesOf]
  exact kept

section Merged

variable {merged : Table}

theorem names_nodup_of_found (files : SourceFiles t l split sources found)
    (apart : ColumnsApart t l split sources) :
    ∀ table ∈ found.map Prod.snd, table.schema.names.Nodup := by
  rintro _ member
  obtain ⟨e, inside, rfl⟩ := List.mem_map.mp member
  exact apart e.1 (files.mem inside).1 e.2 (files.tables e inside)

theorem kept_of_found (files : SourceFiles t l split sources found)
    (apart : ColumnsApart t l split sources) (concat : Table.concat (found.map Prod.snd) = .ok merged) :
    ∀ r ∈ merged.rows,
      Cell.membersRestored? (Fields.ofList merged.schema.columns) r = some r := by
  refine Table.restored?_concat concat (names_nodup_of_found files apart) ?_
  rintro _ member
  obtain ⟨e, inside, rfl⟩ := List.mem_map.mp member
  exact kept_of_table (files.tables e inside)

theorem rowsJson_of_found (files : SourceFiles t l split sources found)
    (apart : ColumnsApart t l split sources) (concat : Table.concat (found.map Prod.snd) = .ok merged) :
    merged.rowsJson = found.flatMap fun e => e.2.rowsJson := by
  rw [Table.rowsJson_concat concat (names_nodup_of_found files apart), List.flatMap_map]

theorem writtenFile_of_writeTable {root : Location} (rooted : t.rootOf l = .ok root)
    (ran : (writeTable (l.file output split) merged).on t = (.ok (), t')) :
    merged.fileContent = .ok (.table merged.schema merged.rows) ∧
      WrittenFile l output split (.table merged.schema merged.rows) root t t' := by
  obtain ⟨content, given, written⟩ := writtenFile_of_writeAtomically rooted ran
  obtain ⟨-, rfl⟩ := Table.fileContent_eq_ok_iff.mp given
  exact ⟨given, written⟩

/-- After a merge the sources have the same files, and a further merge writes the same table. -/
theorem mergeSplit_again {root : Location} (differ : output ∉ sources)
    (files : SourceFiles t l split sources found) (apart : ColumnsApart t l split sources)
    (some : found ≠ []) (concat : Table.concat (found.map Prod.snd) = .ok merged)
    (rooted : t.rootOf l = .ok root)
    (ran : (writeTable (l.file output split) merged).on t = (.ok (), t')) :
    ∃ t'', (mergeSplit l sources output split).on t' =
        (.ok (outcomeOf (l.file output split) found), t'') ∧
      t''.table (l.file output split) = t'.table (l.file output split) := by
  obtain ⟨given, written⟩ := writtenFile_of_writeTable rooted ran
  have files' := files.of_written differ rooted written
  obtain ⟨t'', origin, goal, ran', -⟩ := writeAtomically_again ran (.table merged.schema merged.rows)
  rw [← given] at ran'
  have written' := (writtenFile_of_writeTable written.rooted ran').2
  refine ⟨t'', mergeSplit_on_ok.mpr ⟨found, files', Or.inr ⟨some, rfl, merged, concat, ran'⟩⟩, ?_⟩
  have kept := kept_of_found files apart concat
  rw [written'.table kept, written.table kept]

/-- What a merge leaves: the files of the sources, and a table with their rows and columns. -/
theorem mergeSplit_leaves {path : Path} {count : Nat} {brought : List SourceRows}
    (differ : output ∉ sources) (apart : ColumnsApart t l split sources)
    (h : (mergeSplit l sources output split).on t = (.ok (.written path count brought), t')) :
    ∃ found whole, SourceFiles t' l split sources found ∧
      t'.table (l.file output split) = .ok whole ∧
      whole.rowsJson = (found.flatMap fun e => e.2.rowsJson) ∧
      ∀ e ∈ found, ∀ name type, columnType? e.2.schema.columns name = some type →
        columnType? whole.schema.columns name = some type := by
  obtain ⟨found, files, ⟨-, none, -⟩ | ⟨brings, -, merged, concat, ran⟩⟩ := mergeSplit_on_ok.mp h
  · cases none
  · obtain ⟨root, rooted⟩ := files.rootOf brings
    have written := (writtenFile_of_writeTable rooted ran).2
    refine ⟨found, _, files.of_written differ rooted written,
      written.table (kept_of_found files apart concat), ?_, fun e member _ _ =>
        Table.columnType?_concat concat (List.mem_map_of_mem member)⟩
    rw [Table.rowsJson_batchesOf]
    exact rowsJson_of_found files apart concat

end Merged

/-- Merging a split loses, repeats and reorders no row. Nothing else changes but that a file that
stood where the sibling of the output goes is gone, and merging again gives the same. -/
theorem mergeSplit_keeps_rows (differ : output ∉ sources) (apart : ColumnsApart t l split sources)
    (h : (mergeSplit l sources output split).on t = (.ok outcome, t')) :
    (outcome = .noData ↔ ∀ p ∈ sources, t.has (l.file p split) = false) ∧
    (outcome = .noData → t' = t) ∧
    (outcome ≠ .noData → ∃ found merged place sibling,
      SourceFiles t l split sources found ∧
      outcome = .written (l.file output split) (found.map fun e => e.2.rowCount).sum
        (found.map fun e => ⟨e.1, e.2.rowCount⟩) ∧
      t'.table (l.file output split) = .ok merged ∧
      (merged.load none).rows = (found.flatMap fun e => (e.2.load none).rows) ∧
      t'.FileAt (l.file output split) place ∧ t'.FileAt (l.file output split).temporary sibling ∧
      t'.get? sibling = none ∧
      ∀ m, m ≠ place → m ≠ sibling → t'.get? m = t.get? m ∨
        m = place.dropLast ∧ t.get? m = none ∧ t'.get? m = some .directory) ∧
    ∃ t'', (mergeSplit l sources output split).on t' = (.ok outcome, t'') ∧
      t''.table (l.file output split) = t'.table (l.file output split) := by
  obtain ⟨found, files, ⟨rfl, rfl, rfl⟩ | ⟨some, rfl, merged, concat, ran⟩⟩ := mergeSplit_on_ok.mp h
  · refine ⟨?_, fun _ => rfl, fun data => absurd rfl data, t', h, rfl⟩
    simpa using files.eq_nil_iff
  · obtain ⟨root, rooted⟩ := files.rootOf some
    obtain ⟨given, written⟩ := writtenFile_of_writeTable rooted ran
    refine ⟨?_, nofun, fun _ => ?_, mergeSplit_again differ files apart some concat rooted ran⟩
    · rw [← files.eq_nil_iff]
      exact ⟨nofun, fun none => absurd none some⟩
    · obtain ⟨sibling, place⟩ := written.fileAt ran
      refine ⟨found, _, _, _, files, rfl, written.table (kept_of_found files apart concat), ?_,
        place, sibling, written.sibling, fun m file tmp => ?_⟩
      · simp only [Table.rows_load_none, Table.rowsJson_batchesOf]
        exact rowsJson_of_found files apart concat
      · by_cases directory : m = root ++ [output.name]
        · rw [directory]
          rcases written.before with free | there
          · exact Or.inr ⟨by simp, free, written.directory⟩
          · exact Or.inl (written.directory.trans there.symm)
        · exact Or.inl (written.other m directory file tmp)

section Leftover

def rawLayout : Layout := ⟨⟨"raw"⟩⟩

def threePeople : Partition := ⟨"3ppl", by decide⟩

def fourPeople : Partition := ⟨"4ppl", by decide⟩

def mixedPeople : Partition := ⟨"mix", by decide⟩

def leftover : Tree where
  workdir := ["work"]
  entries := [
    (["work"], .directory),
    (["work", "raw"], .directory),
    (["work", "raw", "3ppl"], .directory),
    (["work", "raw", "3ppl", "train.parquet"],
      .file (.table ⟨[.mk "id" .int64 false, .mk "quiz" .utf8 true], []⟩
        [[.whole 0, .text "Who?"], [.whole 1, .null]]) false),
    (["work", "raw", "4ppl"], .directory),
    (["work", "raw", "4ppl", "train.parquet"],
      .file (.table ⟨[.mk "quiz" .utf8 true], []⟩ [[.text "Why?"]]) false),
    (["work", "raw", "mix"], .directory),
    (["work", "raw", "mix", "train.parquet.tmp"], .file .empty false)]

/-- The output is not the only file that changes. -/
theorem mergeSplit_drops_leftover : ∃ t',
    mixedPeople ∉ [threePeople, fourPeople] ∧
    ColumnsApart leftover rawLayout .train [threePeople, fourPeople] ∧
    (mergeSplit rawLayout [threePeople, fourPeople] mixedPeople .train).on leftover =
      (.ok (.written (rawLayout.file mixedPeople .train) 3 [⟨threePeople, 2⟩, ⟨fourPeople, 1⟩]), t') ∧
    t'.FileAt (rawLayout.file mixedPeople .train) ["work", "raw", "mix", "train.parquet"] ∧
    leftover.get? ["work", "raw", "mix", "train.parquet.tmp"] = some (.file .empty false) ∧
    t'.get? ["work", "raw", "mix", "train.parquet.tmp"] = none :=
  ⟨_, by decide, by decide, rfl, ⟨⟨_, _, rfl, rfl⟩, nofun⟩, rfl, rfl⟩

end Leftover

/-- Three rows from two files, written twice. -/
theorem mergeSplit_keeps_rows_of_leftover : ∃ t' t'',
    (mergeSplit rawLayout [threePeople, fourPeople] mixedPeople .train).on t' =
      (.ok (.written (rawLayout.file mixedPeople .train) 3 [⟨threePeople, 2⟩, ⟨fourPeople, 1⟩]),
        t'') ∧
    t''.table (rawLayout.file mixedPeople .train) = t'.table (rawLayout.file mixedPeople .train) :=
  ⟨_, (mergeSplit_keeps_rows (t := leftover) (by decide) (by decide) rfl).2.2.2⟩

end Disk

end PuzzlePrep

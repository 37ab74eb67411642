import PuzzlePrep.Proofs.Files.Attempt
import PuzzlePrep.Proofs.Record.File
import PuzzlePrep.Proofs.Stage.World
import PuzzlePrep.Stage.Inspect
import PuzzlePrep.Stage.Preprocess

namespace PuzzlePrep

open PuzzlePrep.Path PuzzlePrep.Tree

def ConvertsTo (t : Tree) (input : Path) (label : Split) (write : Except Failure Content) : Prop :=
  ∃ raw, t.table input = .ok raw ∧ write = Record.fileOf raw label

theorem Tree.has_of_table {t : Tree} {p : Path} {table : Table} (h : t.table p = .ok table) :
    t.has p = true := by
  obtain ⟨written, read, -⟩ := table_eq_ok_iff.mp h
  obtain ⟨m, content, executable, found, -⟩ := written_eq_ok_iff.mp read
  exact has_of_find found

namespace Disk

variable {t t' : Tree} {input output : Path} {split : Split} {limit : Nat} {summary : Summary}

theorem convert_on_of_fileOf {raw : Table} {content : Content} (has : t.has input = true)
    (read : t.table input = .ok raw) (file : Record.fileOf raw split = .ok content)
    (ran : (writeAtomically output (.ok content)).on t = (.ok (), t')) :
    (convert input output split limit).on t =
      (.ok ⟨input, output, split, (Record.ofRows raw.rowsJson split).length,
        Record.preview (Record.ofRows raw.rowsJson split) limit⟩, t') := by
  rw [convert, bind_on_ok]
  refine ⟨t, t, rfl, ?_⟩
  rw [has, if_neg (by simp), bind_on_ok]
  refine ⟨raw, t, readTable_on_ok.mpr ⟨read, rfl⟩, ?_⟩
  cases fit : Record.toTable (Record.ofRows (raw.load none).rows split)
      (Record.schema raw.schema) with
  | error f =>
    rw [Record.fileOf, fit] at file
    cases file
  | ok table =>
    rw [Record.fileOf, fit] at file
    have wrote := writeTable_on_ok.mpr ⟨content, file, ran⟩
    simp only [fit]
    exact bind_on_ok.mpr ⟨(), t', wrote, rfl⟩

/-- Converting succeeds where the raw table can be read, its records fit and the output can be
written. -/
theorem convert_on_ok_iff : (∃ summary, (convert input output split limit).on t =
      (.ok summary, t')) ↔ t.has input = true ∧
    ∃ raw content, t.table input = .ok raw ∧ Record.fileOf raw split = .ok content ∧
      (writeAtomically output (.ok content)).on t = (.ok (), t') := by
  constructor
  · rintro ⟨summary, h⟩
    rw [convert, bind_on_ok] at h
    obtain ⟨_, _, got, h⟩ := h
    cases got
    split at h
    · cases h
    · rename_i there
      have has : t.has input = true := by simpa using there
      obtain ⟨raw, between, read, built⟩ := bind_on_ok.mp h
      obtain ⟨read, rfl⟩ := readTable_on_ok.mp read
      cases fit : Record.toTable (Record.ofRows (raw.load none).rows split)
          (Record.schema raw.schema) with
      | error f =>
        simp only [fit] at built
        cases built
      | ok table =>
        simp only [fit] at built
        obtain ⟨⟨⟩, after, ran, built⟩ := bind_on_ok.mp built
        cases built
        obtain ⟨content, given, ran⟩ := writeTable_on_ok.mp ran
        exact ⟨has, raw, content, read, by rw [Record.fileOf, fit]; exact given, ran⟩
  · rintro ⟨has, raw, content, read, file, ran⟩
    exact ⟨_, convert_on_of_fileOf has read file ran⟩

theorem triesOnce_convert (input output : Path) (split : Split) (limit : Nat) (t : Tree) :
    (convert input output split limit).TriesOnce output (ConvertsTo t input split) t := by
  rw [TriesOnce, convert, on_bind, on_get]
  dsimp only
  split
  · exact Or.inl rfl
  · rw [on_bind]
    cases read : t.table input with
    | error f =>
      rw [readTable, on_bind, on_get]
      dsimp only
      rw [read]
      exact Or.inl rfl
    | ok raw =>
      rw [readTable_on_ok.mpr ⟨read, rfl⟩]
      dsimp only
      split
      · exact Or.inl rfl
      · rename_i table fit
        have made : Record.fileOf raw split = table.fileContent := by
          rw [Record.fileOf, fit]
          rfl
        refine Or.inr ⟨table.fileContent, ⟨raw, read, made.symm⟩, ?_⟩
        rw [on_bind, writeTable]
        rcases (writeAtomically output table.fileContent).on t with ⟨f | u, after⟩ <;>
          exact ⟨rfl, rfl⟩

end Disk

namespace Preprocessor

variable {d : Preprocessor} {p : Partition} {s : Split} {w w' : World} {r : PreprocessRecord}

def recordOf (d : Preprocessor) (t : Tree) (p : Partition) (s : Split) : PreprocessRecord where
  partition := p
  split := s
  outcome :=
    if t.has (d.raw.file p s) then .processed (d.raw.file p s) (d.processed.file p s)
    else .skipped (d.raw.file p s)

theorem runOne_on (native : d.routine = .native) (p : Partition) (s : Split) (w : World) :
    (d.runOne p s).on w =
      if w.tree.has (d.raw.file p s) then
        (((Disk.convert (d.raw.file p s) (d.processed.file p s) s d.preview).on w.tree).1.map
            fun _ => d.recordOf w.tree p s,
          { w with
            tree := ((Disk.convert (d.raw.file p s) (d.processed.file p s) s d.preview).on w.tree).2
            jobs := w.jobs ++ [d.job p s] })
      else (.ok (d.recordOf w.tree p s), w) := by
  have work : d.routine.run (d.job p s) =
      Stage.onTree (Disk.convert (d.raw.file p s) (d.processed.file p s) s d.preview) >>=
        fun _ => pure () := by
    rw [native]
    rfl
  rw [runOne, Stage.on_bind, Stage.on_tree]
  dsimp only
  cases has : w.tree.has (d.raw.file p s) with
  | true =>
    have has' : w.tree.has (d.job p s).input = true := has
    rw [has', if_pos rfl, if_pos rfl, Stage.on_bind, Stage.on_modify, work]
    dsimp only
    simp only [Stage.on_bind, Stage.on_onTree]
    rcases (Disk.convert (d.raw.file p s) (d.processed.file p s) s d.preview).on w.tree
      with ⟨f | summary, after⟩
    · rfl
    · simp only [Except.map, recordOf, has, if_true]
      rfl
  | false =>
    have has' : w.tree.has (d.job p s).input = false := has
    rw [has', recordOf, has]
    rfl

theorem runOne_on_ok (native : d.routine = .native)
    (ran : (d.runOne p s).on w = (.ok r, w')) : r = d.recordOf w.tree p s ∧
      (w.tree.has (d.raw.file p s) = true →
        ∃ raw content, w.tree.table (d.raw.file p s) = .ok raw ∧
          Record.fileOf raw s = .ok content ∧
          (Disk.writeAtomically (d.processed.file p s) (.ok content)).on w.tree =
            (.ok (), w'.tree)) ∧
      (w.tree.has (d.raw.file p s) = false → w' = w) := by
  rw [runOne_on native] at ran
  cases has : w.tree.has (d.raw.file p s) with
  | true =>
    rw [has, if_pos rfl] at ran
    rcases converted : (Disk.convert (d.raw.file p s) (d.processed.file p s) s d.preview).on w.tree
      with ⟨f | summary, after⟩
    · rw [converted] at ran
      cases ran
    · rw [converted] at ran
      cases ran
      obtain ⟨-, raw, content, made⟩ := Disk.convert_on_ok_iff.mp ⟨summary, converted⟩
      exact ⟨rfl, fun _ => ⟨raw, content, made⟩, nofun⟩
  | false =>
    rw [has] at ran
    cases ran
    exact ⟨rfl, nofun, fun _ => rfl⟩

section Confined

def Touches (d : Preprocessor) (t t' : Tree) : Prop :=
  Confined (fun _ => True) (fun m => ∃ p name, m = t.inside d.processed p name) t t'

theorem Touches.step {t t' t'' : Tree} {dirs files : Location → Prop} (h : d.Touches t t')
    (next : Confined dirs files t' t'')
    (within : ∀ m, files m → ∃ p name, m = t'.inside d.processed p name) : d.Touches t t'' := by
  refine h.trans (next.mono (fun _ _ _ => trivial) fun m touched => ?_)
  simpa only [inside_congr h.keeps.workdir] using within m touched

theorem touches_writeAtomically {t t' : Tree} (h : d.Touches t t') (p : Partition) (s : Split)
    (write : Except Failure Content) :
    d.Touches t ((Disk.writeAtomically (d.processed.file p s) write).on t').2 := by
  refine h.step (Disk.confined_writeAtomically d.processed p s write t') ?_
  rintro m (tmp | ⟨-, file⟩)
  · exact ⟨_, _, tmp⟩
  · exact ⟨_, _, file⟩

theorem touches_runPartition {t : Tree} (native : d.routine = .native) (h : d.Touches t w.tree)
    (p : Partition) : d.Touches t ((d.runPartition p).on w).2.tree := by
  refine bind_keeps (fun w : World => d.Touches t w.tree) ?_ fun _ between made => ?_
  · show d.Touches t ((Stage.onTree (Disk.makeDirectories (d.processed.directory p))).on w).2.tree
    rw [Stage.on_onTree]
    exact h.step (Disk.confined_makeDirectories _ w.tree) fun _ => False.elim
  · refine mapM_keeps (fun w : World => d.Touches t w.tree) (fun s _ w touched => ?_) made
    show d.Touches t ((d.runOne p s).on w).2.tree
    rw [runOne_on native]
    split
    · exact (Disk.triesOnce_convert _ _ s d.preview w.tree).keeps touched
        fun write _ => touches_writeAtomically touched p s write
    · exact touched

theorem touches_runAll (native : d.routine = .native) (partitions : List Partition) (w : World) :
    d.Touches w.tree ((d.runAll partitions).on w).2.tree := by
  refine bind_keeps (fun after : World => d.Touches w.tree after.tree) ?_ fun _ _ touched => touched
  exact mapM_keeps (fun after : World => d.Touches w.tree after.tree)
    (fun p _ _ touched => touches_runPartition native touched p) (.refl _ _ w.tree)

end Confined

section Ready

variable {t t' t'' : Tree} {q : Partition} {s' : Split} {content : Content}

/-- A sound tree in which the roots of both trees are settled and lie apart. -/
structure Ready (d : Preprocessor) (t : Tree) : Prop where
  sound : t.Sound
  raw : t.Settled d.raw
  processed : t.Settled d.processed
  apart : t.Apart d.raw d.processed

theorem Ready.of_confined {dirs files : Location → Prop} (h : d.Ready t)
    (next : Confined dirs files t t') : d.Ready t' :=
  ⟨next.sound h.sound, h.raw.of_keeps next.keeps, h.processed.of_keeps next.keeps,
    h.apart.congr next.keeps.workdir⟩

/-- The processed file of a split is what its raw file converts to. -/
def InStep (d : Preprocessor) (t : Tree) (p : Partition) (s : Split) : Prop :=
  ∃ raw content, t.table (d.raw.file p s) = .ok raw ∧ Record.fileOf raw s = .ok content ∧
    t.Holds d.processed p s content

theorem status_of_written {p : Path} {table : Table} (h : t.written p = .ok table) :
    (t.status p).state = .readable table.rowCount := by
  obtain ⟨m, content, executable, found, -⟩ := written_eq_ok_iff.mp h
  rw [status, has_of_find found, if_pos rfl, rowCount, h]

theorem status_of_table {p : Path} {table : Table} (h : t.table p = .ok table) :
    (t.status p).state = .readable table.rowCount := by
  obtain ⟨written, read, restored⟩ := table_eq_ok_iff.mp h
  have rows := Table.map_rows_restored? written
  rw [restored, Option.map_some] at rows
  rw [status_of_written read, Table.rowCount, Table.rowCount, length_of_mapM rows.symm]

/-- A file in step has as many rows as its raw file, and each carries its position and split. -/
theorem InStep.rows (h : d.InStep t p s) : ∃ table, t.written (d.processed.file p s) = .ok table ∧
    (t.status (d.raw.file p s)).state = .readable table.rowCount ∧
    (t.status (d.processed.file p s)).state = .readable table.rowCount ∧
    (∀ i row, table.rows[i]? = some row → Table.cellOf table.schema "extra_info" row =
      .record [.text s.name, .whole (Record.signed i)]) ∧
    ∀ loaded, t.load (d.processed.file p s) = .ok loaded → ∀ i m, loaded[i]? = some m →
      m.get? "extra_info" = some (Record.infoJson s i) := by
  obtain ⟨raw, content, read, made, holds⟩ := h
  obtain ⟨rows, rfl, fit⟩ := Record.fileOf_eq_ok made
  obtain ⟨executable, found⟩ := holds.find
  have written : t.written (d.processed.file p s) =
      .ok ⟨Record.schema raw.schema, Table.batchesOf rows⟩ :=
    written_eq_ok_iff.mpr ⟨_, _, executable, found, rfl⟩
  have count : (Table.mk (Record.schema raw.schema) (Table.batchesOf rows)).rowCount =
      raw.rowCount := by
    rw [Table.rowCount, Table.rows_batchesOf, Record.length_of_fit fit]
  refine ⟨_, written, ?_, status_of_written written, fun i row here => ?_,
    fun loaded load i m here => ?_⟩
  · rw [count]
    exact status_of_table read
  · rw [Table.rows_batchesOf] at here
    exact Record.cellOf_info fit here
  · rw [load_of_find found] at load
    cases given : rows.mapM (Record.schema raw.schema).restoredJson? with
    | none =>
      rw [given] at load
      cases load
    | some loaded' =>
      rw [given] at load
      cases load
      exact Record.get?_info_of_load fit given here

structure Stays (d : Preprocessor) (t t' : Tree) : Prop where
  keeps : KeepsDirectories t t'
  raw : ∀ p name, t'.get? (t.inside d.raw p name) = t.get? (t.inside d.raw p name)
  has : ∀ p s, t'.has (d.raw.file p s) = t.has (d.raw.file p s)
  find : ∀ p s, t.has (d.raw.file p s) = true →
    t'.find (d.raw.file p s) = t.find (d.raw.file p s)
  skipped : ∀ p s, t.has (d.raw.file p s) = false →
    t'.get? (t.inside d.processed p s.fileName) = t.get? (t.inside d.processed p s.fileName)
  inStep : ∀ p s, d.InStep t p s → d.InStep t' p s

theorem Stays.refl (d : Preprocessor) (t : Tree) : d.Stays t t :=
  ⟨.refl t, fun _ _ => rfl, fun _ _ => rfl, fun _ _ _ => rfl, fun _ _ _ => rfl, fun _ _ => id⟩

theorem Stays.trans (first : d.Stays t t') (second : d.Stays t' t'') : d.Stays t t'' := by
  refine ⟨first.keeps.trans second.keeps, fun p name => ?_, fun p s => ?_, fun p s has => ?_,
    fun p s absent => ?_, fun p s => second.inStep p s ∘ first.inStep p s⟩
  · have later := second.raw p name
    rw [inside_congr first.keeps.workdir] at later
    rw [later, first.raw]
  · rw [second.has, first.has]
  · rw [second.find p s ((first.has p s).trans has), first.find p s has]
  · have later := second.skipped p s ((first.has p s).trans absent)
    rw [inside_congr first.keeps.workdir] at later
    rw [later, first.skipped p s absent]

theorem Ready.raw_stays {files : Location → Prop} (h : d.Ready t)
    (next : Confined (t.Above d.processed) files t t')
    (within : ∀ m, files m → ∃ p name, m = t.inside d.processed p name) (p : Partition) (s : Split) :
    t'.has (d.raw.file p s) = t.has (d.raw.file p s) ∧
      (t.has (d.raw.file p s) = true → t'.find (d.raw.file p s) = t.find (d.raw.file p s)) := by
  have same := next.same_apart h.apart within p s.fileName
  exact ⟨has_file_congr h.sound h.raw next.keeps same, find_file_of_keeps next.keeps same⟩

theorem InStep.of_confined {files : Location → Prop} (inStep : d.InStep t p s) (h : d.Ready t)
    (next : Confined (t.Above d.processed) files t t')
    (within : ∀ m, files m → ∃ p name, m = t.inside d.processed p name)
    (file : ¬ files (t.inside d.processed p s.fileName))
    (tmp : ¬ files (t.inside d.processed p (s.fileName ++ ".tmp"))) : d.InStep t' p s := by
  obtain ⟨raw, content, read, made, holds⟩ := inStep
  have found := (h.raw_stays next within p s).2 (has_of_table read)
  refine ⟨raw, content, (table_congr found).trans read, made, ?_⟩
  exact holds.of_keeps next.keeps (next.same file (not_above_inside _ _ _))
    (next.same tmp (not_above_inside _ _ _))

theorem Ready.makeDirectories (h : d.Ready t)
    (ran : (Disk.makeDirectories (d.processed.directory p)).on t = (.ok (), t')) :
    d.Ready t' ∧ d.Stays t t' := by
  have next := (Disk.confined_makeDirectories (d.processed.directory p) t).above h.sound h.processed
  rw [ran] at next
  have stays := h.raw_stays next fun _ => False.elim
  exact ⟨h.of_confined next, next.keeps, next.same_apart h.apart fun _ => False.elim,
    fun p s => (stays p s).1, fun p s => (stays p s).2,
    fun p s _ => next.same id (not_above_inside _ _ _),
    fun p s inStep => inStep.of_confined h next (fun _ => False.elim) id id⟩

theorem Ready.runOne (native : d.routine = .native) (h : d.Ready w.tree)
    (ran : (d.runOne p s).on w = (.ok r, w')) :
    d.Ready w'.tree ∧ d.Stays w.tree w'.tree ∧ r = d.recordOf w'.tree p s ∧
      (w'.tree.has (d.raw.file p s) = true → d.InStep w'.tree p s) := by
  obtain ⟨rfl, present, absent⟩ := runOne_on_ok native ran
  cases has : w.tree.has (d.raw.file p s) with
  | false =>
    obtain rfl := absent has
    exact ⟨h, .refl d _, rfl, fun there => absurd there (by simp [has])⟩
  | true =>
    obtain ⟨raw, content, read, made, wrote⟩ := present has
    have next := Confined.of_written h.sound h.processed wrote
    have stays := h.raw_stays next fun _ => Around.within
    have new : d.InStep w'.tree p s := by
      obtain ⟨content', same, holds⟩ := Holds.of_writeAtomically wrote
      cases same
      exact ⟨raw, content, (table_congr ((stays p s).2 has)).trans read, made, holds⟩
    refine ⟨h.of_confined next, ⟨next.keeps, next.same_apart h.apart fun _ => Around.within,
      fun p s => (stays p s).1, fun p s => (stays p s).2, fun q s' lacks => ?_,
      fun q s' old => ?_⟩, ?_, fun _ => new⟩
    · apply next.same _ (not_above_inside _ _ _)
      rw [around_file]
      rintro ⟨rfl, rfl⟩
      rw [has] at lacks
      cases lacks
    · -- The split may have been in step before, if its partition is listed twice.
      by_cases same : q = p ∧ s' = s
      · obtain ⟨rfl, rfl⟩ := same
        exact new
      · exact old.of_confined h next (fun _ => Around.within) (mt around_file.mp same)
          (mt around_temporary.mp same)
    · rw [recordOf, recordOf, (stays p s).1]

structure Done (d : Preprocessor) (t : Tree) (p : Partition) : Prop where
  directory : t.hasDirectory (d.processed.directory p) = true
  inStep : ∀ s ∈ Split.staged, t.has (d.raw.file p s) = true → d.InStep t p s

theorem Stays.recordOf (h : d.Stays t t') (p : Partition) (s : Split) :
    d.recordOf t' p s = d.recordOf t p s := by
  rw [Preprocessor.recordOf, Preprocessor.recordOf, h.has]

theorem Done.of_stays (done : d.Done t p) (h : d.Stays t t') : d.Done t' p := by
  refine ⟨hasDirectory_of_keeps h.keeps done.directory, fun s staged has => ?_⟩
  rw [h.has] at has
  exact h.inStep p s (done.inStep s staged has)

theorem Ready.runPartition {rs : List PreprocessRecord} (native : d.routine = .native)
    (h : d.Ready w.tree) (ran : (d.runPartition p).on w = (.ok rs, w')) :
    d.Ready w'.tree ∧ (rs = Split.staged.map (d.recordOf w'.tree p) ∧ d.Done w'.tree p) ∧
      d.Stays w.tree w'.tree := by
  obtain ⟨_, between, work, later⟩ := Stage.bind_on_ok.mp ran
  obtain ⟨tree, made, rfl⟩ := Stage.onTree_on_ok.mp work
  obtain ⟨ready, stays⟩ := h.makeDirectories made
  have directory := Disk.hasDirectory_of_makeDirectories (directory_named d.processed p) made
  obtain ⟨ready', all, stays'⟩ := mapM_ok_of_steps
    (fun w : World => d.Ready w.tree)
    (fun s r w => r = d.recordOf w.tree p s ∧
      (w.tree.has (d.raw.file p s) = true → d.InStep w.tree p s))
    (fun w w' => d.Stays w.tree w'.tree) (fun w => .refl d w.tree) Stays.trans
    (fun {s r w w'} brought stays => by
      refine ⟨brought.1.trans (stays.recordOf p s).symm, fun has => stays.inStep p s ?_⟩
      rw [stays.has] at has
      exact brought.2 has)
    (fun s _ w r w' ready ran => by
      obtain ⟨ready', stays', record, inStep⟩ := ready.runOne native ran
      exact ⟨ready', ⟨record, inStep⟩, stays'⟩)
    ready later
  obtain ⟨records, inStep⟩ := eq_map_of_forall₂ all
  exact ⟨ready', ⟨records, hasDirectory_of_keeps stays'.keeps directory, inStep⟩,
    stays.trans stays'⟩

/-- After a run every split of every partition has its record, and is in step if its raw file is
there. -/
theorem Ready.runAll {partitions : List Partition} {records : List PreprocessRecord}
    (native : d.routine = .native) (h : d.Ready w.tree)
    (ran : (d.runAll partitions).on w = (.ok records, w')) :
    records = ((stagedSplits partitions).map fun x => d.recordOf w'.tree x.1 x.2) ∧
      (∀ p ∈ partitions, d.Done w'.tree p) ∧ d.Stays w.tree w'.tree := by
  obtain ⟨found, after, each, last⟩ := Stage.bind_on_ok.mp ran
  cases last
  obtain ⟨-, all, stays⟩ := mapM_ok_of_steps
    (fun w : World => d.Ready w.tree)
    (fun p rs w => rs = Split.staged.map (d.recordOf w.tree p) ∧ d.Done w.tree p)
    (fun w w' => d.Stays w.tree w'.tree) (fun w => .refl d w.tree) Stays.trans
    (fun {p rs w w'} brought stays => by
      refine ⟨brought.1.trans (List.map_congr_left fun s _ => (stays.recordOf p s).symm), ?_⟩
      exact brought.2.of_stays stays)
    (fun p _ w rs w' ready ran => ready.runPartition native ran) h each
  obtain ⟨records, done⟩ := eq_map_of_forall₂ all
  refine ⟨?_, done, stays⟩
  rw [records, map_stagedSplits, List.flatMap_def]

end Ready

section Again

variable {t : Tree}

theorem runOne_again (native : d.routine = .native) (alike : t.Alike w.tree)
    (inStep : t.has (d.raw.file p s) = true → d.InStep t p s) :
    ∃ w', (d.runOne p s).on w = (.ok (d.recordOf t p s), w') ∧ t.Alike w'.tree := by
  have same : d.recordOf w.tree p s = d.recordOf t p s := by
    rw [recordOf, recordOf, alike.has]
  rw [runOne_on native, same, alike.has]
  cases has : t.has (d.raw.file p s) with
  | false => exact ⟨w, rfl, alike⟩
  | true =>
    obtain ⟨raw, content, read, made, holds⟩ := inStep has
    obtain ⟨after, wrote, alike'⟩ := (holds.of_alike alike).write_again
    rw [← alike.table] at read
    have converted : ∃ summary, (Disk.convert (d.raw.file p s) (d.processed.file p s) s d.preview).on
        w.tree = (.ok summary, after) :=
      Disk.convert_on_ok_iff.mpr ⟨(alike.has _).trans has, raw, content, read, made, wrote⟩
    obtain ⟨summary, converted⟩ := converted
    rw [if_pos rfl, converted]
    exact ⟨_, rfl, alike.trans alike'⟩

/-- Running again where everything is in step gives the same records and leaves the same files. -/
theorem runAll_again {partitions : List Partition} (native : d.routine = .native)
    (done : ∀ p ∈ partitions, d.Done t p) (alike : t.Alike w.tree) :
    ∃ w', (d.runAll partitions).on w =
      (.ok ((stagedSplits partitions).map fun x => d.recordOf t x.1 x.2), w') ∧
      t.Alike w'.tree := by
  have each : ∀ p ∈ partitions, ∀ w : World, t.Alike w.tree → ∃ w' : World,
      (d.runPartition p).on w = (.ok (Split.staged.map (d.recordOf t p)), w') ∧
        t.Alike w'.tree := by
    intro p member w alike
    have directory := (alike.hasDirectory _).trans (done p member).directory
    have made := Disk.makeDirectories_of_hasDirectory directory
    obtain ⟨w', ran, alike'⟩ := mapM_ok_of_each (fun w : World => t.Alike w.tree)
      (forall₂_map fun s staged w alike =>
        runOne_again native alike ((done p member).inStep s staged)) alike
    exact ⟨w', Stage.bind_on_ok.mpr ⟨(), w, Stage.onTree_on_ok.mpr ⟨w.tree, made, rfl⟩, ran⟩, alike'⟩
  obtain ⟨w', ran, alike'⟩ := mapM_ok_of_each (fun w : World => t.Alike w.tree)
    (forall₂_map each) alike
  refine ⟨w', Stage.bind_on_ok.mpr ⟨_, w', ran, ?_⟩, alike'⟩
  rw [map_stagedSplits, List.flatMap_def]
  rfl

end Again

end Preprocessor

end PuzzlePrep

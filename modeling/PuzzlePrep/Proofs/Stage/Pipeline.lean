import PuzzlePrep.Proofs.Stage.Fetch
import PuzzlePrep.Proofs.Stage.Preprocess
import PuzzlePrep.Proofs.Stage.Remerge
import PuzzlePrep.Stage.Pipeline

namespace PuzzlePrep

open PuzzlePrep.Tree

namespace Pipeline

open Disk (fourPeople mixedPeople)
open Fetcher (fivePeople)

variable {settings : Settings} {workspace : Path} {p : Pipeline} {remote : Remote} {w w' : World}

/-- The stages of a pipeline work on its two trees, with the native routine. -/
structure Wired (p : Pipeline) : Prop where
  layout : p.fetcher.layout = p.raw
  raw : p.preprocessor.raw = p.raw
  processed : p.preprocessor.processed = p.processed
  routine : p.preprocessor.routine = .native
  differ : p.merged ∉ p.sources

theorem output_not_source {sources : List Partition} {merged : Partition}
    (valid : settings.validate = .ok ()) (named : settings.mergeSources = .ok sources)
    (output : settings.mergedPartition = .ok merged) : merged ∉ sources := by
  intro member
  obtain ⟨_, -, valid⟩ := bind_eq_ok.mp valid
  obtain ⟨sources', named', valid⟩ := bind_eq_ok.mp valid
  rw [named] at named'
  cases named'
  have contained : sources.contains merged = true := by simpa using member
  have brings : sources.isEmpty = false := by
    cases sources with
    | nil => cases member
    | cons => rfl
  simp only [output, ok_bind, contained, brings, Bool.false_eq_true, if_false, if_true] at valid
  cases valid

theorem wired_of_build (built : build settings workspace .native = .ok p) :
    p.Wired ∧ settings.allPartitions = .ok p.allPartitions := by
  obtain ⟨_, valid, built⟩ := bind_eq_ok.mp built
  obtain ⟨fetched, listed, built⟩ := bind_eq_ok.mp built
  obtain ⟨sources, named, built⟩ := bind_eq_ok.mp built
  obtain ⟨merged, output, built⟩ := bind_eq_ok.mp built
  cases built
  refine ⟨⟨rfl, rfl, rfl, rfl, output_not_source valid named output⟩, ?_⟩
  rw [Settings.allPartitions, listed, ok_bind, output, ok_bind]
  rfl

theorem run_on_ok {report : PipelineReport} : (p.run remote).on w = (.ok report, w') ↔
    ∃ fetched merged, (p.fetch remote).run w = (report.fetch, fetched) ∧
      p.merge.on fetched = (.ok report.merge, merged) ∧
      p.preprocess.on merged = (.ok report.preprocess, w') := by
  rw [run, Stage.bind_on_ok]
  constructor
  · rintro ⟨fetch, fetched, first, h⟩
    obtain ⟨merge, merged, second, h⟩ := Stage.bind_on_ok.mp h
    obtain ⟨preprocess, after, third, last⟩ := Stage.bind_on_ok.mp h
    cases last
    cases first
    exact ⟨_, merged, rfl, second, third⟩
  · rintro ⟨fetched, merged, first, second, third⟩
    refine ⟨report.fetch, fetched, ?_, Stage.bind_on_ok.mpr ⟨_, merged, second,
      Stage.bind_on_ok.mpr ⟨_, w', third, rfl⟩⟩⟩
    rw [Stage.on_monadLift, first]

theorem run_on_error {f : Failure} (h : (p.run remote).on w = (.error f, w')) :
    ∃ records fetched, (p.fetch remote).run w = (records, fetched) ∧
      (p.merge.on fetched = (.error f, w') ∨ ∃ report merged,
        p.merge.on fetched = (.ok report, merged) ∧ p.preprocess.on merged = (.error f, w')) := by
  rcases Stage.bind_on_error h with none | ⟨records, fetched, first, h⟩
  · cases none
  · cases first
    refine ⟨_, _, Prod.mk.eta.symm, ?_⟩
    rcases Stage.bind_on_error h with second | ⟨report, merged, second, h⟩
    · exact Or.inl second
    · refine Or.inr ⟨report, merged, second, ?_⟩
      rcases Stage.bind_on_error h with third | ⟨_, _, _, last⟩
      · exact third
      · cases last

section Finished

variable {t t' : Tree} {report : PipelineReport} {s : Split} {outcome : MergeOutcome}

theorem merged_of_stays {d : Preprocessor} {sources : List Partition} {output : Partition}
    (stays : d.Stays t t') (h : Disk.Merged t d.raw sources output s outcome) :
    Disk.Merged t' d.raw sources output s outcome :=
  h.of_same
    (fun q _ => ⟨stays.has q s, fun has => table_congr (stays.find q s has)⟩)
    fun _ held => held.of_keeps stays.keeps (stays.raw _ _) (stays.raw _ _)

/-- What a full run leaves: the records of its report, and all that they speak of. -/
structure Finished (p : Pipeline) (t t' : Tree) (report : PipelineReport) : Prop where
  keeps : KeepsDirectories t t'
  preprocess : report.preprocess =
    (stagedSplits p.allPartitions).map fun x => p.preprocessor.recordOf t' x.1 x.2
  done : ∀ q ∈ p.allPartitions, p.preprocessor.Done t' q
  output : report.merge.output = p.merged
  merged : List.Forall₂ (fun s e => e.1 = s ∧ Disk.Merged t' p.raw p.sources p.merged s e.2)
    Split.staged report.merge.splits
  skipped : ∀ q s, t'.has (p.raw.file q s) = false →
    t'.get? (t.inside p.processed q s.fileName) = t.get? (t.inside p.processed q s.fileName)

theorem Wired.ready (wired : p.Wired) (sound : t.Sound) (raw : t.Settled p.raw)
    (processed : t.Settled p.processed) (apart : t.Apart p.raw p.processed) :
    p.preprocessor.Ready t := by
  rw [← wired.raw] at raw apart
  rw [← wired.processed] at processed apart
  exact ⟨sound, raw, processed, apart⟩

theorem Wired.finished (wired : p.Wired) (ready : p.preprocessor.Ready w.tree)
    (ran : (p.run remote).on w = (.ok report, w')) : p.Finished w.tree w'.tree report := by
  obtain ⟨layout, raw, processed, routine, differ⟩ := wired
  obtain ⟨between, after, fetch, work, preprocess⟩ := run_on_ok.mp ran
  have apart := ready.apart
  -- Fetching touches the raw tree only.
  have fetched : Confined (w.tree.Above p.raw) (fun m => ∃ q name, m = w.tree.inside p.raw q name)
      w.tree between.tree := by
    have run := (Fetcher.run_fetchAll ready.sound (by rw [layout, ← raw]; exact ready.raw) fetch).1
    rw [← layout]
    exact run.confined
  have ready₁ := ready.of_confined fetched
  -- So does merging.
  obtain ⟨tree, merge, rfl⟩ := Stage.onTree_on_ok.mp work
  obtain ⟨output, remains, merged⟩ :=
    Disk.merge_on_ok differ ready₁.sound (raw ▸ ready₁.raw) merge
  have ready₂ := ready₁.of_confined remains.confined
  obtain ⟨records, done, stays⟩ := ready₂.runAll routine preprocess
  refine ⟨(fetched.keeps.trans remains.confined.keeps).trans stays.keeps, records, done, output,
    ?_, ?_⟩
  · rw [← raw] at merged ⊢
    exact merged.imp fun s e here => ⟨here.1, merged_of_stays stays here.2⟩
  · intro q s absent
    rw [raw, processed] at apart
    have early : tree.get? (w.tree.inside p.processed q s.fileName) =
        w.tree.get? (w.tree.inside p.processed q s.fileName) := by
      have first := fetched.same_apart apart.symm (fun _ => id) q s.fileName
      have second := remains.confined.same_apart (apart.symm.congr fetched.keeps.workdir)
        (fun _ around => around.elim fun _ => Around.within) q s.fileName
      rw [inside_congr fetched.keeps.workdir] at second
      rw [second, first]
    have workdir : tree.workdir = w.tree.workdir :=
      (fetched.keeps.trans remains.confined.keeps).workdir
    rw [← raw, stays.has] at absent
    have late := stays.skipped q s absent
    rw [processed] at late
    dsimp only at late
    rw [inside_congr workdir] at late
    rw [late, early]

end Finished

structure Tells (p : Pipeline) (t t' : Tree) (r : PreprocessRecord) : Prop where
  processed_iff : r.outcome.isProcessed = true ↔
    t'.has (p.raw.file r.partition r.split) = true
  rows : r.outcome.isProcessed = true → ∃ table,
    t'.written (p.processed.file r.partition r.split) = .ok table ∧
    (t'.status (p.raw.file r.partition r.split)).state = .readable table.rowCount ∧
    (t'.status (p.processed.file r.partition r.split)).state = .readable table.rowCount ∧
    (∀ i row, table.rows[i]? = some row → Table.cellOf table.schema "extra_info" row =
      .record [.text r.split.name, .whole (Record.signed i)]) ∧
    ∀ loaded, t'.load (p.processed.file r.partition r.split) = .ok loaded →
      ∀ i m, loaded[i]? = some m → m.get? "extra_info" = some (Record.infoJson r.split i)
  skipped : r.outcome.isProcessed = false →
    (t'.find (p.processed.file r.partition r.split)).toOption =
      (t.find (p.processed.file r.partition r.split)).toOption

theorem Finished.tells {t t' : Tree} {report : PipelineReport} (finished : p.Finished t t' report)
    (wired : p.Wired) (ready : p.preprocessor.Ready t) :
    ∀ r ∈ report.preprocess, p.Tells t t' r := by
  intro r member
  rw [finished.preprocess] at member
  obtain ⟨⟨q, s⟩, listed, rfl⟩ := List.mem_map.mp member
  obtain ⟨partition, inside, split⟩ := List.mem_flatMap.mp listed
  obtain ⟨split, staged, same⟩ := List.mem_map.mp split
  cases same
  have processed_iff : (p.preprocessor.recordOf t' q s).outcome.isProcessed = true ↔
      t'.has (p.raw.file q s) = true := by
    rw [Preprocessor.recordOf, wired.raw]
    dsimp only
    split <;> simp_all [PreprocessOutcome.isProcessed]
  refine ⟨processed_iff, fun processed => ?_, fun skipped => ?_⟩
  · have has := processed_iff.mp processed
    rw [← wired.raw] at has
    have rows := ((finished.done q inside).inStep s staged has).rows
    rw [wired.raw, wired.processed] at rows
    exact rows
  · have absent : t'.has (p.raw.file q s) = false := by
      rw [← Bool.not_eq_true, ← processed_iff, skipped]
      exact Bool.false_ne_true
    have same := finished.skipped q s absent
    exact find_file_congr_of_place ready.sound (wired.processed ▸ ready.processed) finished.keeps same

def settingsFor (raw processed : String) (fetched sources : List String) : Settings :=
  { Settings.default with
    rawDir := ⟨raw⟩
    processedDir := ⟨processed⟩
    partitions := fetched
    merge := ⟨sources, "mix"⟩ }

def onePuzzle : World where
  tree := {
    workdir := ["work"]
    entries := [
      (["work"], .directory),
      (["work", "raw"], .directory),
      (["work", "raw", "5ppl"], .directory),
      (["work", "raw", "5ppl", "train.parquet"],
        .file (.table ⟨[.mk "quiz" .utf8 true], []⟩ [[.text "Who?"]]) false)] }

def refusing : Remote := fun _ _ => .refused

def processedOf (report : PipelineReport) : List Bool :=
  report.preprocess.map (·.outcome.isProcessed)

def mergedOf (report : PipelineReport) : List (Option Nat) :=
  report.merge.splits.map fun e =>
    match e.2 with
    | .written _ rows _ => some rows
    | .noData => none

def Yields {α : Type} (x : Except Failure α × World) (holds : α → World → Prop) : Prop :=
  match x.1 with
  | .ok a => holds a x.2
  | .error _ => False

instance {α : Type} (x : Except Failure α × World) (holds : α → World → Prop)
    [∀ a w, Decidable (holds a w)] : Decidable (Yields x holds) :=
  match x with
  | (.ok a, w) => inferInstanceAs (Decidable (holds a w))
  | (.error _, _) => inferInstanceAs (Decidable False)

theorem Yields.exists {α : Type} {x : Except Failure α × World} {holds : α → World → Prop}
    (h : Yields x holds) : ∃ a w, x = (.ok a, w) ∧ holds a w := by
  obtain ⟨⟨f⟩ | ⟨a⟩, w⟩ := x
  · cases h
  · exact ⟨a, w, rfl, h⟩

structure RefusedRun (settings : Settings) (w : World)
    (holds : Pipeline → PipelineReport → World → Prop) where
  pipeline : Pipeline
  built : build settings ⟨"/work"⟩ .native = .ok pipeline
  apart : w.tree.Apart pipeline.raw pipeline.processed
  yields : Yields ((pipeline.run refusing).on w) (holds pipeline)

theorem RefusedRun.exists {holds : Pipeline → PipelineReport → World → Prop}
    (r : RefusedRun settings w holds) : ∃ p report w',
    build settings ⟨"/work"⟩ .native = .ok p ∧ w.tree.Apart p.raw p.processed ∧
    (p.run refusing).on w = (.ok report, w') ∧ holds p report w' := by
  obtain ⟨p, built, apart, yields⟩ := r
  obtain ⟨report, w', ran, told⟩ := yields.exists
  exact ⟨p, report, w', built, apart, ran, told⟩

def pipelineFor (raw processed : String) (fetched source : Partition) : Pipeline where
  raw := ⟨⟨raw⟩⟩
  processed := ⟨⟨processed⟩⟩
  fetched := [fetched]
  sources := [source]
  merged := mixedPeople
  fetcher := ⟨Settings.default.fetch.baseUrl, ⟨⟨raw⟩⟩⟩
  preprocessor := ⟨⟨⟨raw⟩⟩, ⟨⟨processed⟩⟩, .native, Settings.default.preprocess.preview⟩

def plainRun : RefusedRun (settingsFor "raw" "processed" ["5ppl"] ["5ppl"]) onePuzzle
    fun p report _ => p.raw = ⟨⟨"/work/raw"⟩⟩ ∧ p.processed = ⟨⟨"/work/processed"⟩⟩ ∧
      processedOf report = [true, false, true, false] where
  pipeline := pipelineFor "/work/raw" "/work/processed" fivePeople fivePeople
  built := rfl
  apart := by decide
  yields := by decide +kernel

theorem settled_onePuzzle : onePuzzle.tree.Settled ⟨⟨"/work/raw"⟩⟩ ∧
    onePuzzle.tree.Settled ⟨⟨"/work/processed"⟩⟩ :=
  ⟨⟨[], _, _, rfl, rfl, by decide⟩, ⟨[], _, _, rfl, rfl, by decide⟩⟩

/-- A full run that succeeds leaves the trees in step: a record for every split of every partition, in
order, which tells whether its raw file is there; then the processed file has a row for each of its rows,
with its position and split, and else the processed file is what it was. A run can fail in merging and in
preprocessing only. -/
theorem run_in_step {result : Except Failure PipelineReport}
    (built : build settings workspace .native = .ok p) (sound : w.tree.Sound)
    (raw : w.tree.Settled p.raw) (processed : w.tree.Settled p.processed)
    (apart : w.tree.Apart p.raw p.processed) (ran : (p.run remote).on w = (result, w')) :
    (∀ report, result = .ok report →
      settings.allPartitions = .ok p.allPartitions ∧
      report.preprocess.map (fun r => (r.partition, r.split)) = stagedSplits p.allPartitions ∧
      (p.inspect w'.tree).entries = report.preprocess.map (fun r =>
        ⟨r.partition, r.split, w'.tree.status (p.raw.file r.partition r.split),
          w'.tree.status (p.processed.file r.partition r.split)⟩) ∧
      (∀ r ∈ report.preprocess, p.Tells w.tree w'.tree r) ∧
      ∀ index < Number.signedBound, Record.signed index = index) ∧
    ∀ f, result = .error f → ∃ records fetched, (p.fetch remote).run w = (records, fetched) ∧
      (p.merge.on fetched = (.error f, w') ∨ ∃ report merged,
        p.merge.on fetched = (.ok report, merged) ∧ p.preprocess.on merged = (.error f, w')) := by
  obtain ⟨wired, all⟩ := wired_of_build built
  have ready := wired.ready sound raw processed apart
  refine ⟨fun report ok => ?_, fun f failed => run_on_error (failed ▸ ran)⟩
  rw [ok] at ran
  have finished := wired.finished ready ran
  refine ⟨all, ?_, ?_, finished.tells wired ready, fun _ => Record.signed_of_lt⟩
  · rw [finished.preprocess, List.map_map]
    exact List.map_id _
  · rw [finished.preprocess, List.map_map, map_stagedSplits]
    rfl

theorem run_in_step_of_one : ∃ p report w',
    build (settingsFor "raw" "processed" ["5ppl"] ["5ppl"]) ⟨"/work"⟩ .native = .ok p ∧
    (p.run refusing).on onePuzzle = (.ok report, w') ∧
    processedOf report = [true, false, true, false] ∧
    ∀ r ∈ report.preprocess, p.Tells onePuzzle.tree w'.tree r := by
  obtain ⟨p, report, w', built, apart, ran, raw, processed, each⟩ := plainRun.exists
  obtain ⟨-, -, -, tells, -⟩ := (run_in_step built (by decide) (raw ▸ settled_onePuzzle.1)
    (processed ▸ settled_onePuzzle.2) apart ran).1 report rfl
  exact ⟨p, report, w', built, ran, each, tells⟩

def detouringRun : RefusedRun (settingsFor "processed/mix/../../raw" "processed" ["5ppl"] ["4ppl"])
    onePuzzle fun p report w' =>
      processedOf report = [false, false, false, false] ∧
      report.preprocess.head?.map (fun r => (r.partition, r.split)) = some (fivePeople, .train) ∧
      w'.tree.has (p.raw.file fivePeople .train) = true where
  pipeline :=
    pipelineFor "/work/processed/mix/../../raw" "/work/processed" fivePeople fourPeople
  built := rfl
  apart := by decide
  yields := by decide +kernel

/-- Where the raw root takes a detour by a directory that only preprocessing makes, a file is skipped
that is there in the end. -/
theorem run_skips_detour : ∃ p report w',
    build (settingsFor "processed/mix/../../raw" "processed" ["5ppl"] ["4ppl"]) ⟨"/work"⟩
      .native = .ok p ∧
    onePuzzle.tree.Sound ∧ onePuzzle.tree.Apart p.raw p.processed ∧
    (p.run refusing).on onePuzzle = (.ok report, w') ∧
    processedOf report = [false, false, false, false] ∧
    report.preprocess.head?.map (fun r => (r.partition, r.split)) = some (fivePeople, .train) ∧
    w'.tree.has (p.raw.file fivePeople .train) = true := by
  obtain ⟨p, report, w', built, apart, ran, told⟩ := detouringRun.exists
  exact ⟨p, report, w', built, by decide, apart, ran, told⟩

/-- Running once more, when no request gets a file, gives the same reports of merging and preprocessing,
tells of each fetched file whether it is there, and leaves the same files. -/
theorem run_again {report : PipelineReport} {silent : Remote}
    (built : build settings workspace .native = .ok p) (sound : w.tree.Sound)
    (raw : w.tree.Settled p.raw) (processed : w.tree.Settled p.processed)
    (apart : w.tree.Apart p.raw p.processed) (ran : (p.run remote).on w = (.ok report, w'))
    (unanswered : Fetcher.Silent silent) :
    ∃ report' w'', (p.run silent).on w' = (.ok report', w'') ∧
      report'.merge = report.merge ∧ report'.preprocess = report.preprocess ∧
      report'.fetch.map (fun r => (r.partition, r.split)) = stagedSplits p.fetched ∧
      (∀ r ∈ report'.fetch, (r.status.isPresent = true ↔
          w'.tree.has (p.raw.file r.partition r.split) = true) ∧
        (r.status.isPresent = false → r.status.isFailed = true)) ∧
      w'.tree.Alike w''.tree := by
  obtain ⟨wired, -⟩ := wired_of_build built
  have ready := wired.ready sound raw processed apart
  have finished := wired.finished ready ran
  rcases fetch : (p.fetch silent).run w' with ⟨records, fetched⟩
  obtain ⟨same, pairs, told⟩ := Fetcher.visits_of_silent unanswered fetch
  rw [wired.layout] at told
  obtain ⟨tree, merge, alike⟩ := Disk.merge_again finished.output finished.merged (.refl w'.tree)
  rw [← same] at merge
  obtain ⟨w'', preprocess, alike'⟩ := Preprocessor.runAll_again
    (w := { fetched with tree }) wired.routine finished.done alike
  rw [← finished.preprocess] at preprocess
  refine ⟨⟨records, report.merge, report.preprocess⟩, w'', ?_, rfl, rfl, pairs, told, alike'⟩
  exact run_on_ok.mpr ⟨fetched, _, fetch, Stage.onTree_on_ok.mpr ⟨tree, merge, rfl⟩, preprocess⟩

theorem run_again_of_one : ∃ p report w' report' w'',
    build (settingsFor "raw" "processed" ["5ppl"] ["5ppl"]) ⟨"/work"⟩ .native = .ok p ∧
    (p.run refusing).on onePuzzle = (.ok report, w') ∧
    processedOf report = [true, false, true, false] ∧
    (p.run refusing).on w' = (.ok report', w'') ∧
    report'.merge = report.merge ∧ report'.preprocess = report.preprocess ∧
    w'.tree.Alike w''.tree := by
  obtain ⟨p, report, w', built, apart, ran, raw, processed, each⟩ := plainRun.exists
  have unanswered : Fetcher.Silent refusing := fun _ _ => rfl
  obtain ⟨report', w'', again, merge, preprocess, -, -, alike⟩ :=
    run_again built (by decide) (raw ▸ settled_onePuzzle.1) (processed ▸ settled_onePuzzle.2) apart
      ran unanswered
  exact ⟨p, report, w', report', w'', built, ran, each, again, merge, preprocess, alike⟩

def twoRuns : RefusedRun (settingsFor "out/../raw" "out/processed" ["4ppl"] ["5ppl"]) onePuzzle
    fun p report w' => Yields ((p.run refusing).on w') fun report' _ =>
      mergedOf report = [none, none] ∧ mergedOf report' = [some 1, none] where
  pipeline := pipelineFor "/work/out/../raw" "/work/out/processed" fourPeople fivePeople
  built := rfl
  apart := by decide
  yields := by decide +kernel

/-- Where the raw root goes up from a directory that only the first run makes, the second run is the first
to find the sources. -/
theorem run_again_merges : ∃ p report w' report' w'',
    build (settingsFor "out/../raw" "out/processed" ["4ppl"] ["5ppl"]) ⟨"/work"⟩ .native = .ok p ∧
    onePuzzle.tree.Sound ∧ onePuzzle.tree.Apart p.raw p.processed ∧
    (p.run refusing).on onePuzzle = (.ok report, w') ∧
    (p.run refusing).on w' = (.ok report', w'') ∧
    report'.merge ≠ report.merge := by
  obtain ⟨p, report, w', built, apart, ran, told⟩ := twoRuns.exists
  obtain ⟨report', w'', again, nothing, one⟩ := told.exists
  refine ⟨p, report, w', report', w'', built, by decide, apart, ran, again, fun same => ?_⟩
  rw [mergedOf, same, ← mergedOf, nothing] at one
  cases one

/-- Preprocessing leaves every raw file as it is, whether it succeeds or fails. -/
theorem preprocess_keeps_raw {result : Except Failure (List PreprocessRecord)}
    (built : build settings workspace .native = .ok p)
    (differ : w.tree.place p.raw ≠ w.tree.place p.processed)
    (ran : p.preprocess.on w = (result, w')) (q : Partition) (s : Split) (content : Content)
    (executable : Bool) :
    (w'.tree.get? (w.tree.inside p.raw q s.fileName) = some (.file content executable) ↔
      w.tree.get? (w.tree.inside p.raw q s.fileName) = some (.file content executable)) ∧
    ∀ m, w.tree.find (p.raw.file q s) = .ok (m, .file content executable) →
      w'.tree.find (p.raw.file q s) = .ok (m, .file content executable) := by
  obtain ⟨wired, -⟩ := wired_of_build built
  have touches := p.preprocessor.touches_runAll wired.routine p.allPartitions w
  have after : (p.preprocessor.runAll p.allPartitions).on w = (result, w') := ran
  rw [after, Preprocessor.Touches, wired.processed] at touches
  have away : ¬ ∃ q' name, w.tree.inside p.raw q s.fileName = w.tree.inside p.processed q' name := by
    rintro ⟨q', name, same⟩
    exact inside_ne differ same
  refine ⟨touches.file_iff away content executable, fun m found => ?_⟩
  obtain ⟨rfl, there, -⟩ := find_eq_inside s.plainName found
  have there' := (touches.file_iff away content executable).mpr there
  exact find_inside_of_keeps s.plainName touches.keeps (there'.trans there.symm) found

theorem preprocess_keeps_raw_of_one : ∃ p records w',
    build (settingsFor "raw" "processed" ["5ppl"] ["5ppl"]) ⟨"/work"⟩ .native = .ok p ∧
    p.preprocess.on onePuzzle = (.ok records, w') ∧
    records.map (·.outcome.isProcessed) = [true, false, false, false] ∧
    w'.tree.get? ["work", "raw", "5ppl", "train.parquet"] =
      some (.file (.table ⟨[.mk "quiz" .utf8 true], []⟩ [[.text "Who?"]]) false) := by
  obtain ⟨p, built, differ, place, told⟩ : ∃ p,
      build (settingsFor "raw" "processed" ["5ppl"] ["5ppl"]) ⟨"/work"⟩ .native = .ok p ∧
      onePuzzle.tree.place p.raw ≠ onePuzzle.tree.place p.processed ∧
      onePuzzle.tree.inside p.raw fivePeople Split.train.fileName =
        ["work", "raw", "5ppl", "train.parquet"] ∧
      Yields (p.preprocess.on onePuzzle) fun records _ =>
        records.map (·.outcome.isProcessed) = [true, false, false, false] :=
    ⟨plainRun.pipeline, rfl, by decide, by decide, by decide +kernel⟩
  obtain ⟨records, w', ran, each⟩ := told.exists
  have keeps := (preprocess_keeps_raw built differ ran fivePeople .train
    (.table ⟨[.mk "quiz" .utf8 true], []⟩ [[.text "Who?"]]) false).1
  rw [place] at keeps
  exact ⟨p, records, w', built, ran, each, keeps.mpr rfl⟩

/-- Nothing asks the roots to differ, and where they do not the raw file is overwritten. -/
theorem preprocess_replaces_raw : ∃ p records w',
    build (settingsFor "raw" "raw" ["5ppl"] ["5ppl"]) ⟨"/work"⟩ .native = .ok p ∧
    p.preprocess.on onePuzzle = (.ok records, w') ∧
    onePuzzle.tree.find (p.raw.file fivePeople .train) = .ok (["work", "raw", "5ppl", "train.parquet"],
      .file (.table ⟨[.mk "quiz" .utf8 true], []⟩ [[.text "Who?"]]) false) ∧
    w'.tree.get? ["work", "raw", "5ppl", "train.parquet"] ≠
      some (.file (.table ⟨[.mk "quiz" .utf8 true], []⟩ [[.text "Who?"]]) false) := by
  obtain ⟨p, built, raw, told⟩ : ∃ p,
      build (settingsFor "raw" "raw" ["5ppl"] ["5ppl"]) ⟨"/work"⟩ .native = .ok p ∧
      p.raw = ⟨⟨"/work/raw"⟩⟩ ∧
      Yields (p.preprocess.on onePuzzle) fun _ w' =>
        ((w'.tree.get? ["work", "raw", "5ppl", "train.parquet"]).bind Entry.content?).bind
          (fun content => content.table?.map (·.schema.columns.length)) ≠ some 1 :=
    ⟨_, rfl, by decide, by decide +kernel⟩
  obtain ⟨records, w', ran, changed⟩ := told.exists
  refine ⟨p, records, w', built, ran, ?_, fun same => ?_⟩
  · rw [raw]
    rfl
  · rw [same] at changed
    exact changed rfl

end Pipeline

end PuzzlePrep

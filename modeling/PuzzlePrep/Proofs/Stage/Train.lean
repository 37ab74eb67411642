import PuzzlePrep.Proofs.Stage.Extent
import PuzzlePrep.Stage.Train

namespace PuzzlePrep

open PuzzlePrep.Path PuzzlePrep.Tree

theorem Tree.settled_of_directory {t : Tree} {l : Layout} {p : Partition}
    (there : t.hasDirectory (l.directory p) = true) : t.Settled l := by
  cases leads : t.spot (l.directory p) with
  | error f =>
    unfold hasDirectory find at there
    rw [leads] at there
    cases there
  | ok spot =>
    obtain ⟨-, root, rooted, -⟩ := spot_directory_eq_ok_iff.mp leads
    refine ⟨l.root.above, [], root, (List.append_nil _).symm, rooted, ?_⟩
    exact List.not_mem_nil

namespace Preprocessor

variable {d : Preprocessor} {p : Partition} {w w' : World} {records : List PreprocessRecord}

/-- A run goes on as if the directory of its first partition had been there. -/
theorem runAll_from_directory {partitions : List Partition}
    (ran : (d.runAll (p :: partitions)).on w = (.ok records, w')) :
    ∃ t, (Disk.makeDirectories (d.processed.directory p)).on w.tree = (.ok (), t) ∧
      (d.runAll (p :: partitions)).on { w with tree := t } = (.ok records, w') := by
  obtain ⟨found, after, each, last⟩ := Stage.bind_on_ok.mp ran
  obtain ⟨rs, between, rest, first, later, rfl⟩ := mapM_cons_run_ok.mp each
  obtain ⟨_, made, work, splits⟩ := Stage.bind_on_ok.mp first
  obtain ⟨t, ready, rfl⟩ := Stage.onTree_on_ok.mp work
  refine ⟨t, ready, ?_⟩
  have again : (Disk.makeDirectories (d.processed.directory p)).on t = (.ok (), t) :=
    Disk.makeDirectories_of_hasDirectory
      (Disk.hasDirectory_of_makeDirectories (directory_named d.processed p) ready)
  have first' : (d.runPartition p).on { w with tree := t } = (.ok rs, between) :=
    Stage.bind_on_ok.mpr ⟨(), _, Stage.onTree_on_ok.mpr ⟨t, again, rfl⟩, splits⟩
  exact Stage.bind_on_ok.mpr
    ⟨_, after, mapM_cons_run_ok.mpr ⟨rs, between, rest, first', later, rfl⟩, last⟩

/-- Where the raw root is settled, every raw file that is there in the end has been converted. -/
theorem has_of_runAll {partitions : List Partition} (native : d.routine = .native)
    (sound : w.tree.Sound) (raw : w.tree.Settled d.raw) (apart : w.tree.Apart d.raw d.processed)
    (ran : (d.runAll partitions).on w = (.ok records, w')) (listed : p ∈ partitions) {s : Split}
    (staged : s ∈ Split.staged) (there : w'.tree.has (d.raw.file p s) = true) :
    w'.tree.has (d.processed.file p s) = true := by
  cases partitions with
  | nil => cases listed
  | cons first rest =>
    obtain ⟨t, made, ran⟩ := runAll_from_directory ran
    -- From the first directory on the processed root is settled as well.
    have confined := Disk.confined_makeDirectories (d.processed.directory first) w.tree
    rw [made] at confined
    have directory := Disk.hasDirectory_of_makeDirectories (directory_named d.processed first) made
    have ready : d.Ready ({ w with tree := t } : World).tree :=
      ⟨confined.sound sound, raw.of_keeps confined.keeps, settled_of_directory directory,
        apart.congr confined.keeps.workdir⟩
    obtain ⟨-, done, -⟩ := ready.runAll native ran
    obtain ⟨_, _, _, _, holds⟩ := (done p listed).inStep s staged there
    obtain ⟨executable, found⟩ := holds.find
    exact has_of_find found

end Preprocessor

section Training

variable {settings : Settings} {workspace : Path} {p : Pipeline} {remote : Remote} {w w' : World}
  {report : PipelineReport}

theorem Pipeline.Wired.processed_of_run (wired : p.Wired) (sound : w.tree.Sound)
    (raw : w.tree.Settled p.raw) (apart : w.tree.Apart p.raw p.processed)
    (ran : (p.run remote).on w = (.ok report, w')) {q : Partition} (listed : q ∈ p.allPartitions)
    {s : Split} (staged : s ∈ Split.staged) (there : w'.tree.has (p.raw.file q s) = true) :
    w'.tree.has (p.processed.file q s) = true := by
  obtain ⟨fetched, merged, fetch, merge, preprocess⟩ := run_on_ok.mp ran
  have first := (wired.writes_fetch remote w).confined
  have second := (p.writes_merge fetched).confined
  rw [fetch] at first
  rw [merge] at second
  have keeps := first.keeps.trans second.keeps
  have sound' := second.sound (first.sound sound)
  have raw' := raw.of_keeps keeps
  have apart' := apart.congr keeps.workdir
  rw [← wired.raw, ← wired.processed] at apart'
  rw [← wired.raw] at raw' there
  rw [← wired.processed]
  exact Preprocessor.has_of_runAll wired.routine sound' raw' apart' preprocess listed staged there

namespace Trainer

variable {t : Tree} {programs : Programs} {env : Environment} {trainer : Trainer}
  {extra : List String} {given : Option Partition} {q : Partition}

/-- The partition to train on: the given one, else the configured one, else the merged one. -/
def Chosen (settings : Settings) (given : Option Partition) (q : Partition) : Prop :=
  given = some q ∨
    given = none ∧ (∃ name, settings.train.partition = some name ∧ Partition.ofName name = .ok q) ∨
    given = none ∧ settings.train.partition = none ∧ settings.mergedPartition = .ok q

theorem chosen_of_partition (named : partition settings given = .ok q) :
    Chosen settings given q := by
  unfold partition at named
  split at named
  · cases named
    exact Or.inl rfl
  · rename_i name configured
    exact Or.inr (Or.inl ⟨rfl, name, configured, named⟩)
  · rename_i configured
    exact Or.inr (Or.inr ⟨rfl, configured, named⟩)

/-- A file that is missing is told, the training file first, and nothing is started. -/
theorem run_of_missing (programs : Programs) (env : Environment) (trainer : Trainer)
    (extra : List String) (w : World) :
    (w.tree.has trainer.trainFile = false →
      (trainer.run programs env extra).on w =
        (.error (.noProcessedData trainer.trainFile.text), w)) ∧
    (w.tree.has trainer.trainFile = true → w.tree.has trainer.testFile = false →
      (trainer.run programs env extra).on w =
        (.error (.noProcessedData trainer.testFile.text), w)) := by
  constructor
  · intro absent
    have first : trainer.inputs.find? (fun p => !w.tree.has p) = some trainer.trainFile := by
      simp [inputs, absent]
    unfold run
    rw [Stage.on_bind, Stage.on_get]
    dsimp only
    rw [first]
    rfl
  · intro there absent
    have second : trainer.inputs.find? (fun p => !w.tree.has p) = some trainer.testFile := by
      simp [inputs, there, absent]
    unfold run
    rw [Stage.on_bind, Stage.on_get]
    dsimp only
    rw [second]
    rfl

/-- With both files there all that can fail is the trainer itself. -/
theorem kind_of_run (train : w.tree.has trainer.trainFile = true)
    (test : w.tree.has trainer.testFile = true) {f : Failure}
    (ran : (trainer.run programs env extra).on w = (.error f, w')) : f.kind = .launch := by
  have none : trainer.inputs.find? (fun p => !w.tree.has p) = none := by
    simp [inputs, train, test]
  unfold run at ran
  rw [Stage.on_bind, Stage.on_get] at ran
  dsimp only at ran
  rw [none] at ran
  dsimp only at ran
  split at ran
  · cases ran
    rfl
  · cases ran
  · rename_i status output complaints after _
    rcases Stage.bind_on_error ran with unset | ⟨_, between, -, later⟩
    · cases unset
    · split at later
      · cases later
        rfl
      · cases later

theorem configured_eq (configured : configure t env settings workspace given = .ok trainer) :
    ∃ q, partition settings given = .ok q ∧
      trainer.trainFile = (settings.processedLayout workspace).file q .train ∧
      trainer.testFile = (settings.processedLayout workspace).file q .test ∧
      trainer.rewardFunction = workspace.resolve settings.train.rewardFunction ∧
      trainer.overrides = settings.train.overrides := by
  obtain ⟨q, named, made⟩ := bind_eq_ok.mp configured
  cases made
  exact ⟨q, named, rfl, rfl, rfl, rfl⟩

/-- The trainer is told the files that preprocessing writes, and starts on them after every full run that
has found the raw files, as long as the raw root goes up from directories only that were there before. A
file that is missing is told, the training file first, and nothing is started. -/
theorem trains_on_processed (valid : settings.validate = .ok ())
    (configured : configure t env settings workspace given = .ok trainer) :
    ∃ p q, Pipeline.build settings workspace .native = .ok p ∧ Chosen settings given q ∧
      (∀ extra, trainer.arguments extra =
        ["data.train_files=" ++ (p.preprocessor.job q .train).output.text,
          "data.val_files=" ++ (p.preprocessor.job q .test).output.text,
          "custom_reward_function.path=" ++
            (workspace.resolve settings.train.rewardFunction).text] ++
          settings.train.overrides ++ extra) ∧
      (∀ remote w report w', w.tree.Sound → w.tree.Settled p.raw →
        w.tree.Apart p.raw p.processed → q ∈ p.allPartitions →
        (p.run remote).on w = (.ok report, w') →
        (∀ s ∈ Split.staged, w'.tree.has (p.raw.file q s) = true) →
        ∀ programs env extra f after,
          (trainer.run programs env extra).on w' = (.error f, after) → f.kind ≠ .notFound) ∧
      ∀ programs env extra w,
        (w.tree.has (p.preprocessor.job q .train).output = false →
          (trainer.run programs env extra).on w =
            (.error (.noProcessedData (p.preprocessor.job q .train).output.text), w)) ∧
        (w.tree.has (p.preprocessor.job q .train).output = true →
          w.tree.has (p.preprocessor.job q .test).output = false →
          (trainer.run programs env extra).on w =
            (.error (.noProcessedData (p.preprocessor.job q .test).output.text), w)) := by
  obtain ⟨p, built, -, processed, -⟩ := Pipeline.build_of_valid valid workspace .native
  obtain ⟨wired, -⟩ := Pipeline.wired_of_build built
  obtain ⟨q, named, train, test, reward, overrides⟩ := configured_eq configured
  -- Both sides read the same root: the one that the settings name for processed files.
  rw [← processed] at train test
  have output (s : Split) : (p.preprocessor.job q s).output = p.processed.file q s := by
    rw [← wired.processed]
    rfl
  refine ⟨p, q, built, chosen_of_partition named, ?_, ?_, ?_⟩
  · intro extra
    unfold arguments
    rw [train, test, reward, overrides, output, output]
  · intro remote w report w' sound raw apart listed ran there programs env extra f after failed
    have done (s : Split) (staged : s ∈ Split.staged) : w'.tree.has (p.processed.file q s) = true :=
      wired.processed_of_run sound raw apart ran listed staged (there s staged)
    have trainThere := done .train (by decide)
    have testThere := done .test (by decide)
    rw [← train] at trainThere
    rw [← test] at testThere
    rw [kind_of_run trainThere testThere failed]
    decide
  · intro programs env extra w
    rw [output, output, ← train, ← test]
    exact run_of_missing programs env trainer extra w

end Trainer

end Training

namespace Trainer

open Pipeline (RefusedRun build refusing settingsFor)
open Fetcher (fivePeople)

def twoPuzzles : World where
  tree := {
    workdir := ["work"]
    entries := [
      (["work"], .directory),
      (["work", "raw"], .directory),
      (["work", "raw", "5ppl"], .directory),
      (["work", "raw", "5ppl", "train.parquet"],
        .file (.table ⟨[.mk "quiz" .utf8 true], []⟩ [[.text "Who?"]]) false),
      (["work", "raw", "5ppl", "test.parquet"],
        .file (.table ⟨[.mk "quiz" .utf8 true], []⟩ [[.text "Why?"]]) false)] }

def plainRun : RefusedRun (settingsFor "raw" "processed" ["5ppl"] ["5ppl"]) twoPuzzles
    fun p _ w' => p.raw = ⟨⟨"/work/raw"⟩⟩ ∧
      (settingsFor "raw" "processed" ["5ppl"] ["5ppl"]).mergedPartition = .ok p.merged ∧
      p.merged ∈ p.allPartitions ∧
      ∀ s ∈ Split.staged, twoPuzzles.tree.has (p.raw.file p.merged s) = false ∧
        w'.tree.has (p.raw.file p.merged s) = true where
  pipeline := Pipeline.plainRun.pipeline
  built := Pipeline.plainRun.built
  apart := by decide
  yields := by decide +kernel

/-- The merged partition, whose raw files come about in the run. -/
theorem trains_on_processed_of_two : ∃ p trainer report w',
    (settingsFor "raw" "processed" ["5ppl"] ["5ppl"]).validate = .ok () ∧
    configure twoPuzzles.tree [] (settingsFor "raw" "processed" ["5ppl"] ["5ppl"]) ⟨"/work"⟩ none =
      .ok trainer ∧
    build (settingsFor "raw" "processed" ["5ppl"] ["5ppl"]) ⟨"/work"⟩ .native = .ok p ∧
    (p.run refusing).on twoPuzzles = (.ok report, w') ∧
    (∀ s ∈ Split.staged, twoPuzzles.tree.has (p.raw.file p.merged s) = false ∧
      w'.tree.has (p.raw.file p.merged s) = true) ∧
    ∀ programs env extra f after,
      (trainer.run programs env extra).on w' = (.error f, after) → f.kind ≠ .notFound := by
  have valid : (settingsFor "raw" "processed" ["5ppl"] ["5ppl"]).validate = .ok () := rfl
  obtain ⟨trainer, configured⟩ : ∃ trainer, configure twoPuzzles.tree []
      (settingsFor "raw" "processed" ["5ppl"] ["5ppl"]) ⟨"/work"⟩ none = .ok trainer := ⟨_, rfl⟩
  obtain ⟨p, q, built, chosen, -, starts, -⟩ := trains_on_processed valid configured
  obtain ⟨p', report, w', built', apart, ran, raw, output, listed, there⟩ := plainRun.exists
  rw [built] at built'
  cases built'
  have merged : q = p.merged := by
    rcases chosen with there | ⟨-, name, there, -⟩ | ⟨-, -, there⟩
    · cases there
    · cases there
    · rw [output] at there
      cases there
      rfl
  subst merged
  have settled : twoPuzzles.tree.Settled p.raw := by
    rw [raw]
    exact ⟨[], _, _, rfl, rfl, by decide⟩
  have started := starts refusing twoPuzzles report w' (by decide) settled apart listed ran
    fun s staged => (there s staged).2
  exact ⟨p, trainer, report, w', valid, configured, built, ran, there, started⟩

def detouringRun : RefusedRun (settingsFor "processed/mix/../../raw" "processed" ["5ppl"] ["4ppl"])
    twoPuzzles fun p _ w' => fivePeople ∈ p.allPartitions ∧
      (∀ s ∈ Split.staged, w'.tree.has (p.raw.file fivePeople s) = true) ∧
      w'.tree.has ⟨"/work/processed/5ppl/train.parquet"⟩ = false where
  pipeline := Pipeline.detouringRun.pipeline
  built := Pipeline.detouringRun.built
  apart := by decide
  yields := by decide +kernel

/-- Where the raw root takes a detour by a directory that only preprocessing makes, training finds no
file of a partition although its raw files are there. -/
theorem training_misses_detour : ∃ p trainer report w',
    (settingsFor "processed/mix/../../raw" "processed" ["5ppl"] ["4ppl"]).validate = .ok () ∧
    configure twoPuzzles.tree [] (settingsFor "processed/mix/../../raw" "processed" ["5ppl"] ["4ppl"])
      ⟨"/work"⟩ (some fivePeople) = .ok trainer ∧
    build (settingsFor "processed/mix/../../raw" "processed" ["5ppl"] ["4ppl"]) ⟨"/work"⟩
      .native = .ok p ∧
    twoPuzzles.tree.Sound ∧ twoPuzzles.tree.Apart p.raw p.processed ∧
    fivePeople ∈ p.allPartitions ∧
    (p.run refusing).on twoPuzzles = (.ok report, w') ∧
    (∀ s ∈ Split.staged, w'.tree.has (p.raw.file fivePeople s) = true) ∧
    ∀ programs env extra,
      (trainer.run programs env extra).on w' =
        (.error (.noProcessedData trainer.trainFile.text), w') ∧
      (Failure.noProcessedData trainer.trainFile.text).kind = .notFound := by
  obtain ⟨p, report, w', built, apart, ran, listed, there, absent⟩ := detouringRun.exists
  obtain ⟨trainer, configured, file⟩ : ∃ trainer, configure twoPuzzles.tree []
      (settingsFor "processed/mix/../../raw" "processed" ["5ppl"] ["4ppl"]) ⟨"/work"⟩
        (some fivePeople) = .ok trainer ∧
      trainer.trainFile = ⟨"/work/processed/5ppl/train.parquet"⟩ := ⟨_, rfl, by decide⟩
  rw [← file] at absent
  refine ⟨p, trainer, report, w', rfl, configured, built, by decide, apart, listed, ran, there, ?_⟩
  intro programs env extra
  exact ⟨(run_of_missing programs env trainer extra w').1 absent, rfl⟩

end Trainer

end PuzzlePrep

import PuzzlePrep.Proofs.Stage.History
import PuzzlePrep.Proofs.Stage.Pipeline

namespace PuzzlePrep

open PuzzlePrep.Path PuzzlePrep.Tree

/-- The tree goes from step to step: the directory of a target is made, or its file is tried. -/
inductive WriteRun (targets : Target → Prop) : Tree → Tree → Prop
  | nil (t : Tree) : WriteRun targets t t
  | directory {t t' : Tree} {g : Target} (among : targets g)
    (rest : WriteRun targets ((Disk.makeDirectories g.directory).on t).2 t') : WriteRun targets t t'
  | file {t t' : Tree} {g : Target} (among : targets g) (write : Except Failure Content)
    (rest : WriteRun targets ((Disk.writeAtomically g.path write).on t).2 t') : WriteRun targets t t'

namespace WriteRun

variable {targets targets' : Target → Prop} {t t' t'' : Tree}

theorem trans (first : WriteRun targets t t') (second : WriteRun targets t' t'') :
    WriteRun targets t t'' := by
  induction first with
  | nil => exact second
  | directory among _ ih => exact .directory among (ih second)
  | file among write _ ih => exact .file among write (ih second)

theorem makeDirectories {g : Target} (among : targets g) (t : Tree) :
    WriteRun targets t ((Disk.makeDirectories g.directory).on t).2 := .directory among (.nil _)

theorem writeAtomically {g : Target} (among : targets g) (write : Except Failure Content)
    (t : Tree) : WriteRun targets t ((Disk.writeAtomically g.path write).on t).2 :=
  .file among write (.nil _)

def Writes (targets : Target → Prop) (t : Tree) (m : Location) : Prop :=
  ∃ g, targets g ∧ (m = g.place t ∨ m = g.sibling t)

def Makes (targets : Target → Prop) (t : Tree) (m : Location) : Prop :=
  ∃ g, targets g ∧ g.directory.Passes t.workdir m

theorem writes_congr (same : t'.workdir = t.workdir) (targets : Target → Prop) :
    Writes targets t' = Writes targets t := by
  funext m
  simp only [Writes, Target.place_eq same, Target.sibling_eq same]

theorem makes_congr (same : t'.workdir = t.workdir) (targets : Target → Prop) :
    Makes targets t' = Makes targets t := by
  funext m
  rw [Makes, Makes, same]

theorem confined_cons (first : Confined (Makes targets t) (Writes targets t) t t')
    (rest : Confined (Makes targets t') (Writes targets t') t' t'') :
    Confined (Makes targets t) (Writes targets t) t t'' := by
  rw [makes_congr first.keeps.workdir, writes_congr first.keeps.workdir] at rest
  exact first.trans rest

theorem confined (run : WriteRun targets t t') :
    Confined (Makes targets t) (Writes targets t) t t' := by
  induction run with
  | nil t => exact .refl _ _ t
  | @directory t _ g among _ ih =>
    have made := Disk.confined_makeDirectories g.directory t
    exact confined_cons (made.mono (fun _ _ passes => ⟨g, among, passes⟩) fun _ => False.elim) ih
  | @file t _ g among write _ ih =>
    refine confined_cons ((g.confined write t).mono (fun _ _ passes => ⟨g, among, passes⟩) ?_) ih
    rintro m (sibling | ⟨-, place⟩)
    · exact ⟨g, among, Or.inr sibling⟩
    · exact ⟨g, among, Or.inl place⟩

end WriteRun

theorem Tree.partition_of_inside {t : Tree} {l l' : Layout} {p q : Partition} {name other : String}
    (same : t.inside l p name = t.inside l' q other) : p = q := by
  have names := (List.append_inj' same rfl).2
  exact Partition.name_injective (List.cons.inj names).1

theorem Settings.mem_withPartition {ps : List Partition} {p q : Partition} :
    q ∈ withPartition ps p ↔ q ∈ ps ∨ q = p := by
  unfold withPartition
  split
  · rename_i there
    have member : p ∈ ps := by simpa using there
    refine ⟨Or.inl, ?_⟩
    intro either
    rcases either with inside | rfl
    · exact inside
    · exact member
  · simp

namespace Pipeline

open Disk (fourPeople)
open Fetcher (fivePeople)

variable {settings : Settings} {workspace : Path} {p : Pipeline} {g : Target} {t t' : Tree}

/-- What a run may write: the training and test files of the fetched partitions and of the merged one in
the raw tree, and those of all partitions in the processed tree. -/
structure Targets (p : Pipeline) (g : Target) : Prop where
  staged : g.split ∈ Split.staged
  within : g.layout = p.raw ∧ (g.partition ∈ p.fetched ∨ g.partition = p.merged) ∨
    g.layout = p.processed ∧ g.partition ∈ p.allPartitions

theorem Targets.mem_allPartitions (among : p.Targets g) : g.partition ∈ p.allPartitions := by
  rcases among.within with ⟨-, raw⟩ | ⟨-, processed⟩
  · exact Settings.mem_withPartition.mpr raw
  · exact processed

theorem staged_of_mem {partitions : List Partition} {x : Partition × Split}
    (member : x ∈ stagedSplits partitions) : x.1 ∈ partitions ∧ x.2 ∈ Split.staged := by
  obtain ⟨partition, inside, split⟩ := List.mem_flatMap.mp member
  obtain ⟨split, staged, rfl⟩ := List.mem_map.mp split
  exact ⟨inside, staged⟩

theorem Wired.writes_fetch (wired : p.Wired) (remote : Remote) (w : World) :
    WriteRun p.Targets w.tree ((p.fetch remote).run w).2.tree := by
  unfold fetch Fetcher.fetchAll
  refine Fetcher.relates_visits .nil .trans ?_ w
  intro x member t write _
  obtain ⟨fetched, staged⟩ := staged_of_mem member
  rw [wired.layout]
  have among : p.Targets ⟨p.raw, x.1, x.2⟩ := ⟨staged, Or.inl ⟨rfl, Or.inl fetched⟩⟩
  exact .writeAtomically among write t

theorem writes_merge (p : Pipeline) (w : World) :
    WriteRun p.Targets w.tree (p.merge.on w).2.tree := by
  unfold merge
  rw [Stage.on_onTree]
  refine Disk.relates_merge .nil .trans ?_ w.tree
  intro split staged t write _
  have among : p.Targets ⟨p.raw, p.merged, split⟩ := ⟨staged, Or.inl ⟨rfl, Or.inr rfl⟩⟩
  exact .writeAtomically among write t

theorem Wired.writes_preprocess (wired : p.Wired) (w : World) :
    WriteRun p.Targets w.tree (p.preprocess.on w).2.tree := by
  unfold preprocess
  refine Preprocessor.relates_runAll .nil .trans wired.routine ?_ ?_ w
  · intro q member t
    rw [wired.processed]
    have among : p.Targets ⟨p.processed, q, .train⟩ :=
      ⟨List.mem_cons_self, Or.inr ⟨rfl, member⟩⟩
    exact .makeDirectories among t
  · intro x member t write _
    obtain ⟨inside, staged⟩ := staged_of_mem member
    rw [wired.processed]
    have among : p.Targets ⟨p.processed, x.1, x.2⟩ := ⟨staged, Or.inr ⟨rfl, inside⟩⟩
    exact .writeAtomically among write t

theorem Wired.writes_run (wired : p.Wired) (remote : Remote) (w : World) :
    WriteRun p.Targets w.tree ((p.run remote).on w).2.tree := by
  unfold run
  refine bind_keeps (fun after : World => WriteRun p.Targets w.tree after.tree)
    (wired.writes_fetch remote w) ?_
  intro records fetched first
  refine bind_keeps (fun after : World => WriteRun p.Targets w.tree after.tree)
    (first.trans (p.writes_merge fetched)) ?_
  intro report merged second
  exact bind_keeps (fun after : World => WriteRun p.Targets w.tree after.tree)
    (second.trans (wired.writes_preprocess merged)) fun _ _ third => third

structure StaysWithin (p : Pipeline) (t t' : Tree) : Prop where
  run : WriteRun p.Targets t t'
  file : ∀ m, (∃ g, p.Targets g ∧ (m = g.place t ∨ m = g.sibling t)) ∨
    ∀ content executable, t'.get? m = some (.file content executable) ↔
      t.get? m = some (.file content executable)
  made : ∀ m, t'.get? m = some .directory → t.get? m = some .directory ∨
    ∃ g, p.Targets g ∧ g.directory.Passes t.workdir m ∧
      (t.Sound → t.Settled g.layout → m <+: t.place g.layout ++ [g.partition.name])
  kept : ∀ m, t.get? m = some .directory → t'.get? m = some .directory
  source : ∀ q ∈ p.sources, q ∉ p.fetched → ∀ s : Split,
    (∀ g, p.Targets g → t.inside p.raw q s.fileName ≠ g.place t ∧
      t.inside p.raw q s.fileName ≠ g.sibling t) ∧
    ∀ content executable,
      t'.get? (t.inside p.raw q s.fileName) = some (.file content executable) ↔
        t.get? (t.inside p.raw q s.fileName) = some (.file content executable)

theorem Wired.not_target_of_source (wired : p.Wired) {q : Partition} (source : q ∈ p.sources)
    (unfetched : q ∉ p.fetched) (among : p.Targets g) : q ≠ g.partition := by
  intro same
  have listed := among.mem_allPartitions
  rw [← same] at listed
  rcases Settings.mem_withPartition.mp listed with fetched | merged
  · exact unfetched fetched
  · rw [merged] at source
    exact wired.differ source

theorem Wired.staysWithin (wired : p.Wired) (run : WriteRun p.Targets t t') :
    p.StaysWithin t t' := by
  have confined := run.confined
  have away (q : Partition) (source : q ∈ p.sources) (unfetched : q ∉ p.fetched) (s : Split)
      (g : Target) (among : p.Targets g) : t.inside p.raw q s.fileName ≠ g.place t ∧
        t.inside p.raw q s.fileName ≠ g.sibling t := by
    have differ := wired.not_target_of_source source unfetched among
    exact ⟨fun same => differ (partition_of_inside same),
      fun same => differ (partition_of_inside same)⟩
  refine ⟨run, ?_, ?_, confined.keeps.directory, ?_⟩
  · intro m
    by_cases among : WriteRun.Writes p.Targets t m
    · exact Or.inl among
    · exact Or.inr (confined.file_iff among)
  · intro m directory
    rcases confined.made m directory with old | ⟨g, among, passes⟩
    · exact Or.inl old
    · by_cases old : t.get? m = some .directory
      · exact Or.inl old
      · refine Or.inr ⟨g, among, passes, ?_⟩
        intro sound settled
        exact (directory_or_before_of_passes sound settled passes).resolve_left old
  · intro q source unfetched s
    refine ⟨away q source unfetched s, confined.file_iff ?_⟩
    intro among
    obtain ⟨g, among, place⟩ := among
    obtain ⟨atPlace, atSibling⟩ := away q source unfetched s g among
    exact place.elim atPlace atSibling

theorem build_of_valid (valid : settings.validate = .ok ()) (workspace : Path) (routine : Routine) :
    ∃ p, build settings workspace routine = .ok p ∧ p.raw = settings.rawLayout workspace ∧
      p.processed = settings.processedLayout workspace ∧
      settings.fetchedPartitions = .ok p.fetched ∧ settings.mergeSources = .ok p.sources ∧
      settings.mergedPartition = .ok p.merged := by
  have whole := valid
  obtain ⟨all, listed, valid⟩ := bind_eq_ok.mp valid
  obtain ⟨sources, named, -⟩ := bind_eq_ok.mp valid
  obtain ⟨fetched, names, listed⟩ := bind_eq_ok.mp listed
  obtain ⟨merged, output, -⟩ := bind_eq_ok.mp listed
  refine ⟨⟨settings.rawLayout workspace, settings.processedLayout workspace, fetched, sources, merged,
    ⟨settings.fetch.baseUrl, settings.rawLayout workspace⟩, ⟨settings.rawLayout workspace,
      settings.processedLayout workspace, routine, settings.preprocess.preview⟩⟩, ?_,
    rfl, rfl, names, named, output⟩
  unfold build
  rw [whole, ok_bind, names, ok_bind, named, ok_bind, output, ok_bind]
  rfl

/-- Whatever the server does and however it ends, a run of sound settings writes inside its two trees
only, and no raw file of a source that is not fetched. -/
theorem run_stays_within (valid : settings.validate = .ok ()) (workspace : Path) :
    ∃ p, build settings workspace .native = .ok p ∧ p.raw = settings.rawLayout workspace ∧
      p.processed = settings.processedLayout workspace ∧
      settings.fetchedPartitions = .ok p.fetched ∧ settings.mergeSources = .ok p.sources ∧
      settings.mergedPartition = .ok p.merged ∧ settings.allPartitions = .ok p.allPartitions ∧
      ∀ (remote : Remote) (w : World), p.StaysWithin w.tree ((p.run remote).on w).2.tree := by
  obtain ⟨p, built, raw, processed, fetched, sources, merged⟩ :=
    build_of_valid valid workspace .native
  obtain ⟨wired, all⟩ := wired_of_build built
  refine ⟨p, built, raw, processed, fetched, sources, merged, all, ?_⟩
  intro remote w
  exact wired.staysWithin (wired.writes_run remote w)

def unfetchedRun : RefusedRun (settingsFor "raw" "processed" ["4ppl"] ["5ppl"]) onePuzzle
    fun p report _ => fivePeople ∈ p.sources ∧ fivePeople ∉ p.fetched ∧
      mergedOf report = [some 1, none] where
  pipeline := pipelineFor "/work/raw" "/work/processed" fourPeople fivePeople
  built := rfl
  apart := by decide
  yields := by decide +kernel

/-- A source that is not fetched: its raw file is still the one row after its merge. -/
theorem run_stays_within_of_one :
    (settingsFor "raw" "processed" ["4ppl"] ["5ppl"]).validate = .ok () ∧
    ∃ p, build (settingsFor "raw" "processed" ["4ppl"] ["5ppl"]) ⟨"/work"⟩ .native = .ok p ∧
      fivePeople ∈ p.sources ∧ fivePeople ∉ p.fetched ∧
      p.StaysWithin onePuzzle.tree ((p.run refusing).on onePuzzle).2.tree ∧
      ((p.run refusing).on onePuzzle).2.tree.get? ["work", "raw", "5ppl", "train.parquet"] =
        some (.file (.table ⟨[.mk "quiz" .utf8 true], []⟩ [[.text "Who?"]]) false) ∧
      Yields ((p.run refusing).on onePuzzle) fun report _ => mergedOf report = [some 1, none] := by
  have valid : (settingsFor "raw" "processed" ["4ppl"] ["5ppl"]).validate = .ok () := rfl
  obtain ⟨p, built, raw, -, -, -, -, -, stays⟩ := run_stays_within valid ⟨"/work"⟩
  obtain ⟨p', report, w', built', -, ran, source, unfetched, told⟩ := unfetchedRun.exists
  rw [built] at built'
  cases built'
  have place : onePuzzle.tree.inside p.raw fivePeople Split.train.fileName =
      ["work", "raw", "5ppl", "train.parquet"] := by
    rw [raw]
    decide
  have within := stays refusing onePuzzle
  have same := (within.source fivePeople source unfetched .train).2
    (.table ⟨[.mk "quiz" .utf8 true], []⟩ [[.text "Who?"]]) false
  rw [place] at same
  refine ⟨valid, p, built, source, unfetched, within, same.mpr rfl, ?_⟩
  rw [ran]
  exact told

end Pipeline

end PuzzlePrep

import PuzzlePrep.Proofs.Files.Attempt
import PuzzlePrep.Proofs.Stage.Fetch
import PuzzlePrep.Proofs.Stage.Merge
import PuzzlePrep.Proofs.Stage.Preprocess

namespace PuzzlePrep

open PuzzlePrep.Tree

def Fetcher.Serves (f : Fetcher) (remote : Remote) (p : Partition) (s : Split)
    (write : Except Failure Content) : Prop :=
  ∃ number url content, Url.parse? (f.url p s) = some (.web url) ∧
    (remote number url).content url = .ok content ∧ write = .ok content

def MergesTo (t : Tree) (l : Layout) (sources : List Partition) (split : Split)
    (write : Except Failure Content) : Prop :=
  ∃ found merged, SourceFiles t l split sources found ∧ found ≠ [] ∧
    Table.concat (found.map Prod.snd) = .ok merged ∧ write = merged.fileContent

namespace Disk

variable {t t' : Tree}

theorem triesOnce_mergeSplit (l : Layout) (sources : List Partition) (output : Partition)
    (split : Split) (t : Tree) :
    (mergeSplit l sources output split).TriesOnce (Target.path ⟨l, output, split⟩)
      (MergesTo t l sources split) t := by
  rw [Target.path, TriesOnce, mergeSplit, on_bind, on_get]
  dsimp only
  cases read : t.sourceTables l split sources with
  | error f => exact Or.inl rfl
  | ok found =>
    cases found with
    | nil => exact Or.inl rfl
    | cons e rest =>
      cases concat : Table.concat ((e :: rest).map Prod.snd) with
      | error f =>
        dsimp only
        rw [concat]
        exact Or.inl rfl
      | ok merged =>
        have files := sourceTables_eq_ok_iff.mp read
        refine Or.inr ⟨merged.fileContent, ⟨_, merged, files, List.cons_ne_nil _ _, concat, rfl⟩, ?_⟩
        dsimp only
        rw [concat]
        dsimp only
        rw [on_bind, writeTable]
        rcases (writeAtomically (l.file output split) merged.fileContent).on t with ⟨f | u, after⟩ <;>
          exact ⟨rfl, rfl⟩

section Merge

variable {l : Layout} {sources : List Partition} {output : Partition} {f : Failure}

/-- How a merge fails: at the training split, or at the test split when the training split is merged
already, unless there was nothing to merge for it. -/
inductive MergeStops (l : Layout) (sources : List Partition) (output : Partition) (f : Failure)
    (t t' : Tree) : Prop
  | train (failed : (mergeSplit l sources output .train).on t = (.error f, t'))
    (train : Target.Kept ⟨l, output, .train⟩ t t') (test : Target.Kept ⟨l, output, .test⟩ t t')
  | test {outcome : MergeOutcome} {between : Tree}
    (done : (mergeSplit l sources output .train).on t = (.ok outcome, between))
    (failed : (mergeSplit l sources output .test).on between = (.error f, t'))
    (train : (∀ p ∈ sources, t.has (l.file p .train) = false) ∧
        Target.Kept ⟨l, output, .train⟩ t t' ∨
      ∃ content, MergesTo t l sources .train (.ok content) ∧
        t'.contentAt? (Target.place ⟨l, output, .train⟩ t) = some content)
    (test : Target.Kept ⟨l, output, .test⟩ t t')

theorem merge_on_error (ran : (merge l sources output).on t = (.error f, t')) :
    (mergeSplit l sources output .train).on t = (.error f, t') ∨
      ∃ outcome between, (mergeSplit l sources output .train).on t = (.ok outcome, between) ∧
        (mergeSplit l sources output .test).on between = (.error f, t') := by
  simp only [merge, Split.staged, List.mapM_cons, List.mapM_nil, bind_assoc, pure_bind, on_bind,
    on_pure] at ran
  rcases first : (mergeSplit l sources output .train).on t with ⟨g | outcome, between⟩
  · rw [first] at ran
    cases ran
    exact Or.inl rfl
  · rw [first] at ran
    dsimp only at ran
    rcases second : (mergeSplit l sources output .test).on between with ⟨g | outcome', after⟩
    · rw [second] at ran
      cases ran
      exact Or.inr ⟨outcome, between, rfl, second⟩
    · rw [second] at ran
      cases ran

/-- A source that is there has its root in place, which the output shares, so that merging makes no other
directory than that of the output. -/
theorem get?_mergeSplit (l : Layout) (sources : List Partition) (output : Partition) {split : Split}
    (t : Tree) {m : Location} (directory : m ≠ t.place l ++ [output.name])
    (sibling : m ≠ Target.sibling ⟨l, output, split⟩ t)
    (place : ((mergeSplit l sources output split).on t).1.isOk = true →
      m ≠ Target.place ⟨l, output, split⟩ t) :
    ((mergeSplit l sources output split).on t).2.get? m = t.get? m := by
  rcases triesOnce_mergeSplit l sources output split t with same | ⟨write, merges, same, result⟩
  · rw [same]
  · obtain ⟨found, merged, files, some, -, -⟩ := merges
    obtain ⟨root, rooted⟩ := files.rootOf some
    rw [same]
    rw [result] at place
    rw [← rootOf_eq_place rooted] at directory
    exact Target.get?_of_rootOf (g := ⟨l, output, split⟩) rooted write directory sibling place

theorem keeps_mergeSplit (l : Layout) (sources : List Partition) (output : Partition) (split : Split)
    (t : Tree) : KeepsDirectories t ((mergeSplit l sources output split).on t).2 := by
  rcases triesOnce_mergeSplit l sources output split t with same | ⟨write, -, same, -⟩
  · rw [same]
    exact .refl t
  · rw [same]
    exact (Target.confined ⟨l, output, split⟩ write t).keeps

/-- Merging a split leaves the other output alone, and its own as well if it fails. -/
theorem get?_output_of_mergeSplit (l : Layout) (sources : List Partition) (output : Partition)
    (split : Split) (t : Tree) (s : Split)
    (spared : ((mergeSplit l sources output split).on t).1.isOk = true → s ≠ split) :
    ((mergeSplit l sources output split).on t).2.get? (Target.place ⟨l, output, s⟩ t) =
      t.get? (Target.place ⟨l, output, s⟩ t) := by
  have apart := Target.sibling_ne_place ⟨l, output, split⟩ ⟨l, output, s⟩ rfl t
  refine get?_mergeSplit l sources output t ?_ apart.symm fun done same => ?_
  · intro same
    have lengths := congrArg List.length same
    simp [Target.place, inside] at lengths
  · exact spared done (Split.fileName_injective (inside_inj.mp same).2)

theorem kept_of_mergeSplit {split : Split}
    (failed : (mergeSplit l sources output split).on t = (.error f, t')) (s : Split) :
    Target.Kept ⟨l, output, s⟩ t t' := by
  have keeps := keeps_mergeSplit l sources output split t
  have same := get?_output_of_mergeSplit l sources output split t s
  rw [failed] at keeps same
  exact Target.kept_of_place keeps (same nofun)

theorem mergeStops (ran : (merge l sources output).on t = (.error f, t')) :
    MergeStops l sources output f t t' := by
  rcases merge_on_error ran with failed | ⟨outcome, between, done, failed⟩
  · exact .train failed (kept_of_mergeSplit failed _) (kept_of_mergeSplit failed _)
  · have keeps := keeps_mergeSplit l sources output .train t
    have first := get?_output_of_mergeSplit l sources output .train t .test fun _ => nofun
    rw [done] at keeps first
    have keeps' := keeps_mergeSplit l sources output .test between
    rw [failed] at keeps'
    -- The test split leaves both outputs as the training split has left them.
    have later (s : Split) : t'.get? (Target.place ⟨l, output, s⟩ t) =
        between.get? (Target.place ⟨l, output, s⟩ t) := by
      rw [← Target.place_eq keeps.workdir]
      exact (kept_of_mergeSplit failed s).place
    refine .test done failed ?_ (Target.kept_of_place (keeps.trans keeps') ((later .test).trans first))
    obtain ⟨found, files, ⟨none, -, rfl⟩ | ⟨some, -, merged, concat, wrote⟩⟩ := mergeSplit_on_ok.mp done
    · exact Or.inl ⟨files.eq_nil_iff.mp none, kept_of_mergeSplit failed _⟩
    · have wrote' : (writeAtomically (Target.path ⟨l, output, .train⟩) merged.fileContent).on t =
          (.ok (), between) := wrote
      obtain ⟨-, -, ⟨content, given, filled⟩, -⟩ := Target.finished wrote'
      refine Or.inr ⟨content, ⟨found, merged, files, some, concat, given.symm⟩, ?_⟩
      rw [contentAt?, later .train]
      exact filled

end Merge

theorem untouched_convert {input : Path} {target : Target} {label : Split} {preview : Nat} {f : Failure}
    (failed : (convert input target.path label preview).on t = (.error f, t')) :
    KeepsDirectories t t' ∧ Untouched target.directory t t' (target.place t) := by
  rcases (triesOnce_convert input target.path label preview t).failed failed with
    rfl | ⟨write, e, -, wrote⟩
  · exact ⟨.refl t', Or.inl rfl⟩
  · obtain ⟨keeps, other⟩ := Target.failed wrote
    refine ⟨keeps, (other _).resolve_right fun gone => ?_⟩
    exact Target.sibling_ne_place target target rfl t gone.1.symm

end Disk

inductive Operation
  | fetchOne (f : Fetcher) (remote : Remote) (p : Partition) (s : Split)
  | fetchAll (f : Fetcher) (remote : Remote) (partitions : List Partition)
  | mergeSplit (l : Layout) (sources : List Partition) (output : Partition) (split : Split)
  | merge (l : Layout) (sources : List Partition) (output : Partition)
  | convert (input : Path) (target : Target) (label : Split) (preview : Nat)
  | preprocess (raw processed : Layout) (preview : Nat) (partitions : List Partition)
  | writeFile (target : Target) (content : Except Failure Content)

namespace Operation

def step (w : World) : Operation → World
  | fetchOne f remote p s => ((f.fetchOne remote p s).run w).2
  | fetchAll f remote partitions => ((f.fetchAll remote partitions).run w).2
  | mergeSplit l sources output split =>
    ((Stage.onTree (Disk.mergeSplit l sources output split)).on w).2
  | merge l sources output => ((Stage.onTree (Disk.merge l sources output)).on w).2
  | convert input target label preview =>
    ((Stage.onTree (Disk.convert input target.path label preview)).on w).2
  | preprocess raw processed preview partitions =>
    (((Preprocessor.mk raw processed .native preview).runAll partitions).on w).2
  | writeFile target content => ((Stage.onTree (Disk.writeAtomically target.path content)).on w).2

/-- What the operation may hand over to be written to a target, in a tree. -/
def Hands (o : Operation) (t : Tree) (target : Target) (write : Except Failure Content) : Prop :=
  match o with
  | fetchOne f remote p s => target = ⟨f.layout, p, s⟩ ∧ f.Serves remote p s write
  | fetchAll f remote partitions => ∃ x ∈ stagedSplits partitions,
    target = ⟨f.layout, x.1, x.2⟩ ∧ f.Serves remote x.1 x.2 write
  | mergeSplit l sources output split =>
    target = ⟨l, output, split⟩ ∧ MergesTo t l sources split write
  | merge l sources output => ∃ split ∈ Split.staged,
    target = ⟨l, output, split⟩ ∧ MergesTo t l sources split write
  | convert input goal label _ => target = goal ∧ ConvertsTo t input label write
  | preprocess raw processed _ partitions => ∃ x ∈ stagedSplits partitions,
    target = ⟨processed, x.1, x.2⟩ ∧ ConvertsTo t (raw.file x.1 x.2) x.2 write
  | writeFile goal content => target = goal ∧ write = content

end Operation

-- What the stages do to the tree, for any relation that holds of a tree and itself, goes on from tree
-- to tree, and holds of the steps that the stage can take.
section Stages

variable {related : Tree → Tree → Prop} (refl : ∀ t, related t t)
  (trans : ∀ {t t' t''}, related t t' → related t' t'' → related t t'')

include refl

theorem Fetcher.relates_fetchOne {f : Fetcher} {remote : Remote} {p : Partition} {s : Split}
    (step : ∀ t write, f.Serves remote p s write →
      related t ((Disk.writeAtomically (f.layout.file p s) write).on t).2) (w : World) :
    related w.tree ((f.fetchOne remote p s).run w).2.tree := by
  rcases visited : (f.fetchOne remote p s).run w with ⟨r, after⟩
  obtain ⟨visit, -⟩ := visit_fetchOne visited
  generalize r.status = status at visit
  cases visit with
  | present | unasked | unanswered => exact refl w.tree
  | unwritten _ parsed reply ran | written _ parsed reply ran =>
    have attempt := step w.tree _ ⟨_, _, _, parsed, reply, rfl⟩
    rw [ran] at attempt
    exact attempt

theorem Preprocessor.relates_runOne {d : Preprocessor} {p : Partition} {s : Split}
    (native : d.routine = .native) (step : ∀ t write, ConvertsTo t (d.raw.file p s) s write →
      related t ((Disk.writeAtomically (d.processed.file p s) write).on t).2) (w : World) :
    related w.tree ((d.runOne p s).on w).2.tree := by
  rw [runOne_on native]
  split
  · have once := Disk.triesOnce_convert (d.raw.file p s) (d.processed.file p s) s d.preview w.tree
    exact once.keeps (refl w.tree) (step w.tree)
  · exact refl w.tree

include trans

theorem Fetcher.relates_visits {f : Fetcher} {remote : Remote} {xs : List (Partition × Split)}
    (step : ∀ x ∈ xs, ∀ t write, f.Serves remote x.1 x.2 write →
      related t ((Disk.writeAtomically (f.layout.file x.1 x.2) write).on t).2) (w : World) :
    related w.tree ((xs.mapM fun x => f.fetchOne remote x.1 x.2).run w).2.tree := by
  induction xs generalizing w with
  | nil => exact refl w.tree
  | cons x xs ih =>
    obtain ⟨r, between, rest, first, later, -⟩ := mapM_cons_run.mp
      (Prod.mk.eta (p := ((x :: xs).mapM fun x => f.fetchOne remote x.1 x.2).run w)).symm
    obtain ⟨head, tail⟩ := List.forall_mem_cons.mp step
    have here := relates_fetchOne refl head w
    have there := ih tail between
    rw [first] at here
    rw [later] at there
    exact trans here there

theorem Disk.relates_merge {l : Layout} {sources : List Partition} {output : Partition}
    (step : ∀ split ∈ Split.staged, ∀ t write, MergesTo t l sources split write →
      related t ((writeAtomically (l.file output split) write).on t).2) (t : Tree) :
    related t ((merge l sources output).on t).2 := by
  refine bind_keeps (related t) ?_ fun _ _ reached => reached
  refine mapM_keeps (related t) (fun s member u before => trans before ?_) (refl t)
  refine bind_keeps (related u) ?_ fun _ _ reached => reached
  exact (triesOnce_mergeSplit l sources output s u).keeps (refl u) (step s member u)

namespace Preprocessor

variable {d : Preprocessor}

theorem relates_runPartition {p : Partition} (native : d.routine = .native)
    (directory : ∀ t, related t ((Disk.makeDirectories (d.processed.directory p)).on t).2)
    (step : ∀ s ∈ Split.staged, ∀ t write, ConvertsTo t (d.raw.file p s) s write →
      related t ((Disk.writeAtomically (d.processed.file p s) write).on t).2) (w : World) :
    related w.tree ((d.runPartition p).on w).2.tree := by
  refine bind_keeps (fun after : World => related w.tree after.tree) ?_ fun _ between made => ?_
  · show related w.tree
      ((Stage.onTree (Disk.makeDirectories (d.processed.directory p))).on w).2.tree
    rw [Stage.on_onTree]
    exact directory w.tree
  · exact mapM_keeps (fun after : World => related w.tree after.tree)
      (fun s member u before => trans before (relates_runOne refl native (step s member) u)) made

theorem relates_runAll {partitions : List Partition} (native : d.routine = .native)
    (directory : ∀ p ∈ partitions, ∀ t,
      related t ((Disk.makeDirectories (d.processed.directory p)).on t).2)
    (step : ∀ x ∈ stagedSplits partitions, ∀ t write,
      ConvertsTo t (d.raw.file x.1 x.2) x.2 write →
      related t ((Disk.writeAtomically (d.processed.file x.1 x.2) write).on t).2) (w : World) :
    related w.tree ((d.runAll partitions).on w).2.tree := by
  refine bind_keeps (fun after : World => related w.tree after.tree) ?_ fun _ _ made => made
  refine mapM_keeps (fun after : World => related w.tree after.tree)
    (fun p member u before => trans before ?_) (refl w.tree)
  refine relates_runPartition refl trans native (directory p member) ?_ u
  intro s staged
  exact step (p, s) (List.mem_flatMap.mpr ⟨p, member, List.mem_map.mpr ⟨s, staged, rfl⟩⟩)

end Preprocessor

end Stages

namespace Operation

/-- Whether it succeeds or fails, an operation changes the tree by attempts only. -/
theorem reaches (o : Operation) (w : World) : Reaches o.Hands w.tree (o.step w).tree := by
  cases o with
  | fetchOne f remote p s =>
    refine Fetcher.relates_fetchOne .refl (fun t write serves => ?_) w
    show Reaches _ t ((Disk.writeAtomically (Target.path ⟨f.layout, p, s⟩) write).on t).2
    exact .writeAtomically ⟨rfl, serves⟩
  | fetchAll f remote partitions =>
    refine Fetcher.relates_visits .refl .trans (fun x member t write serves => ?_) w
    show Reaches _ t ((Disk.writeAtomically (Target.path ⟨f.layout, x.1, x.2⟩) write).on t).2
    exact .writeAtomically ⟨x, member, rfl, serves⟩
  | mergeSplit l sources output split =>
    rw [step, Stage.on_onTree]
    exact (Disk.triesOnce_mergeSplit l sources output split w.tree).keeps (.refl w.tree)
      fun _ merges => .writeAtomically ⟨rfl, merges⟩
  | merge l sources output =>
    rw [step, Stage.on_onTree]
    refine Disk.relates_merge .refl .trans (fun split member t write merges => ?_) w.tree
    show Reaches _ t ((Disk.writeAtomically (Target.path ⟨l, output, split⟩) write).on t).2
    exact .writeAtomically ⟨split, member, rfl, merges⟩
  | convert input target label preview =>
    rw [step, Stage.on_onTree]
    exact (Disk.triesOnce_convert input target.path label preview w.tree).keeps (.refl w.tree)
      fun _ converts => .writeAtomically ⟨rfl, converts⟩
  | preprocess raw processed preview partitions =>
    refine Preprocessor.relates_runAll .refl .trans rfl (fun _ _ _ => .makeDirectories _ _)
      (fun x member t write converts => ?_) w
    show Reaches _ t ((Disk.writeAtomically (Target.path ⟨processed, x.1, x.2⟩) write).on t).2
    exact .writeAtomically ⟨x, member, rfl, converts⟩
  | writeFile target content =>
    rw [step, Stage.on_onTree]
    exact Reaches.writeAtomically ⟨rfl, rfl⟩

def runAll (os : List Operation) (w : World) : World := os.foldl step w

theorem reaches_runAll (os : List Operation) (w : World) :
    Reaches (fun t target write => ∃ o ∈ os, o.Hands t target write) w.tree (runAll os w).tree := by
  induction os generalizing w with
  | nil => exact .refl w.tree
  | cons o os ih =>
    refine Reaches.trans ((o.reaches w).mono fun _ _ _ given => ?_)
      ((ih (o.step w)).mono fun _ _ _ given => ?_)
    · exact ⟨o, List.mem_cons_self, given⟩
    · obtain ⟨o', member, given⟩ := given
      exact ⟨o', List.mem_cons_of_mem o member, given⟩

end Operation

/-- Whatever fails, every operation and every history leaves each file old or whole, with the content
that a finished attempt was handed. A merge of a split that fails leaves its output as it was, and a merge
that fails at the test split leaves a whole training file. A conversion that fails leaves the file of its
output as it was, and the whole output if the root of the target goes up only from directories that are
there. -/
theorem history_all_or_nothing (w : World) :
    (∀ o : Operation, ∃ attempts, AttemptRun o.Hands w.tree attempts (o.step w).tree ∧
      AllOrNothing attempts w.tree (o.step w).tree) ∧
    (∀ os : List Operation, ∃ attempts,
      AttemptRun (fun t target write => ∃ o ∈ os, o.Hands t target write) w.tree attempts
        (Operation.runAll os w).tree ∧
      AllOrNothing attempts w.tree (Operation.runAll os w).tree) ∧
    (∀ l sources output split f t',
      (Disk.mergeSplit l sources output split).on w.tree = (.error f, t') →
      Target.Kept ⟨l, output, split⟩ w.tree t') ∧
    (∀ input (target : Target) label preview f t',
      (Disk.convert input target.path label preview).on w.tree = (.error f, t') →
      t'.contentAt? (target.place w.tree) = w.tree.contentAt? (target.place w.tree) ∧
      (∀ r, w.tree.find target.path = .ok r → t'.find target.path = .ok r) ∧
      (w.tree.Sound → w.tree.Settled target.layout → target.Kept w.tree t')) ∧
    ∀ l sources output f t', (Disk.merge l sources output).on w.tree = (.error f, t') →
      Disk.MergeStops l sources output f w.tree t' := by
  refine ⟨fun o => ?_, fun os => ?_, fun l sources output split f t' failed => ?_,
    fun input target label preview f t' failed => ?_, fun l sources output f t' => Disk.mergeStops⟩
  · obtain ⟨attempts, run⟩ := o.reaches w
    exact ⟨attempts, run, run.allOrNothing⟩
  · obtain ⟨attempts, run⟩ := Operation.reaches_runAll os w
    exact ⟨attempts, run, run.allOrNothing⟩
  · exact Disk.kept_of_mergeSplit failed split
  · obtain ⟨keeps, spared⟩ := Disk.untouched_convert failed
    exact ⟨spared.contentAt?, fun r => Target.find_of_keeps keeps (spared.imp_right fun made => made.2.1),
      fun sound settled => Target.kept_of_untouched sound settled keeps spared⟩

section Conflict

open Disk

def conflict : World where
  tree := {
    workdir := ["work"]
    entries := [
      (["work"], .directory),
      (["work", "raw"], .directory),
      (["work", "raw", "3ppl"], .directory),
      (["work", "raw", "3ppl", "train.parquet"],
        .file (.table ⟨[.mk "quiz" .utf8 true], []⟩ [[.text "Who?"]]) false),
      (["work", "raw", "3ppl", "test.parquet"],
        .file (.table ⟨[.mk "quiz" .utf8 true], []⟩ [[.text "Why?"]]) false),
      (["work", "raw", "4ppl"], .directory),
      (["work", "raw", "4ppl", "test.parquet"],
        .file (.table ⟨[.mk "quiz" .int64 true], []⟩ [[.whole 7]]) false),
      (["work", "out"], .directory),
      (["work", "out", "mix"], .directory),
      (["work", "out", "mix", "train.parquet"], .directory)] }

def occupied : Target := ⟨⟨⟨"out"⟩⟩, mixedPeople, .train⟩

def detour : Target := ⟨⟨⟨"x/mix/train.parquet/../.."⟩⟩, mixedPeople, .train⟩

structure ConversionRun (target : Target) (holds : Except Failure Summary → Tree → Prop) where
  result : Except Failure Summary
  after : Tree
  ran : (convert (rawLayout.file threePeople .train) target.path .train 0).on conflict.tree =
    (result, after)
  told : holds result after

def occupiedRun : ConversionRun occupied fun result _ => result.isOk = false :=
  ⟨_, _, (Prod.mk.eta).symm, by decide +kernel⟩

def detourRun : ConversionRun detour fun result t' =>
    result.isOk = false ∧ t'.hasDirectory detour.path = true :=
  ⟨_, _, (Prod.mk.eta).symm, by decide +kernel⟩

/-- The merge of the test files fails and leaves no file, on its own and behind that of the training
files, and a conversion fails where a directory is. -/
theorem history_all_or_nothing_of_conflict : ∃ f g t₁ t₂ t₃,
    (mergeSplit rawLayout [threePeople, fourPeople] mixedPeople .test).on conflict.tree =
      (.error f, t₁) ∧
    t₁.get? ["work", "raw", "mix", "test.parquet"] = none ∧
    (merge rawLayout [threePeople, fourPeople] mixedPeople).on conflict.tree = (.error f, t₂) ∧
    MergeStops rawLayout [threePeople, fourPeople] mixedPeople f conflict.tree t₂ ∧
    (convert (rawLayout.file threePeople .train) occupied.path .train 0).on conflict.tree =
      (.error g, t₃) ∧
    conflict.tree.Sound ∧ conflict.tree.Settled occupied.layout ∧ occupied.Kept conflict.tree t₃ := by
  obtain ⟨-, -, split, conversion, merged⟩ := history_all_or_nothing conflict
  have sound : conflict.tree.Sound := by decide
  have settled : conflict.tree.Settled occupied.layout := ⟨[], _, _, rfl, rfl, by decide⟩
  have kept := split rawLayout [threePeople, fourPeople] mixedPeople .test _ _ rfl
  obtain ⟨g | summary, t₃, ran, failed⟩ := occupiedRun
  · exact ⟨_, g, _, _, t₃, rfl, kept.place, rfl, merged _ _ _ _ _ rfl, ran, sound, settled,
      (conversion _ occupied _ _ _ _ ran).2.2 sound settled⟩
  · cases failed

/-- The root of a target may go up from directories that are made on the way to the output: nothing was
there, and after the conversion has failed there is a directory. -/
theorem convert_makes_output : ∃ f t', conflict.tree.Sound ∧
    (convert (rawLayout.file threePeople .train) detour.path .train 0).on conflict.tree =
      (.error f, t') ∧
    conflict.tree.has detour.path = false ∧ t'.hasDirectory detour.path = true := by
  obtain ⟨f | summary, t', ran, failed, made⟩ := detourRun
  · exact ⟨f, t', by decide, ran, by decide +kernel, made⟩
  · cases failed

end Conflict

end PuzzlePrep

import PuzzlePrep.Proofs.Stage.Tasks

namespace PuzzlePrep.Preprocessor

open PuzzlePrep.Path PuzzlePrep.Tree

variable {d : Preprocessor} {t u u' : Tree} {w w' : World} {x : Task} {xs : List Task}
  {p : Partition} {s : Split} {result : Except Failure Unit}

/-- What lies where the raw files go is what lay there in `t`, and is found just if it was. -/
structure Unmoved (d : Preprocessor) (t u : Tree) : Prop where
  sound : u.Sound
  workdir : u.workdir = t.workdir
  entry : ∀ (p : Partition) (s : Split),
    u.get? (t.inside d.raw p s.fileName) = t.get? (t.inside d.raw p s.fileName)
  has : ∀ (p : Partition) (s : Split), u.has (d.raw.file p s) = t.has (d.raw.file p s)

theorem Ready.unmoved (ready : d.Ready t) : d.Unmoved t t :=
  ⟨ready.sound, rfl, fun _ _ => rfl, fun _ _ => rfl⟩

/-- Making directories for a partition, and changes inside the processed tree, leave the raw files where
they are. The ways there need not be as they were in `t`: the routine may have removed a directory. -/
theorem Unmoved.of_confined (unmoved : d.Unmoved t u) (ready : d.Ready t) {files : Location → Prop}
    (next : Confined ((d.processed.directory p).Passes u.workdir) files u u')
    (within : ∀ m, files m → ∃ q name, m = t.inside d.processed q name) : d.Unmoved t u' := by
  have workdir : u'.workdir = t.workdir := next.keeps.workdir.trans unmoved.workdir
  have step (q : Partition) (s : Split) :
      u'.get? (t.inside d.raw q s.fileName) = u.get? (t.inside d.raw q s.fileName) := by
    have outside : ¬ files (t.inside d.raw q s.fileName) := by
      intro touched
      obtain ⟨q', name, here⟩ := within _ touched
      exact inside_ne ready.apart.place_ne here
    rcases next.other _ outside with same | ⟨free, made⟩
    · exact same
    · -- A directory on the way to the processed one was there in `t`, or lies above no raw file.
      rcases next.made _ made with old | passes
      · rw [made, old]
      · rw [unmoved.workdir] at passes
        rcases directory_or_above_of_passes ready.sound ready.processed passes with old | above
        · rw [unmoved.entry, old] at free
          cases free
        · exact absurd above (ready.apart.not_above_inside q _)
  have entry (q : Partition) (s : Split) := (step q s).trans (unmoved.entry q s)
  refine ⟨next.sound unmoved.sound, workdir, entry, fun q s => ?_⟩
  rw [Bool.eq_iff_iff]
  constructor
  · -- What is found now had its entry in `t`, where the root was settled, and so was found there.
    intro has
    obtain ⟨m, e, found⟩ := find_of_has has
    obtain ⟨rfl, there, -⟩ := find_eq_inside s.plainName found
    rw [inside_congr workdir, entry] at there
    exact has_of_find (find_inside_of_entry ready.sound ready.raw workdir s.plainName found there)
  · intro has
    rw [← unmoved.has] at has
    obtain ⟨m, e, found⟩ := find_of_has has
    obtain ⟨rfl, -, -⟩ := find_eq_inside s.plainName found
    rw [inside_congr unmoved.workdir] at found
    exact has_of_find (find_inside_of_keeps s.plainName next.keeps (step q s) found)

def EachJob (d : Preprocessor) (t : Tree) (change : Tree → Tree → Prop) : Task → Prop
  | .directory _ => True
  | .split p s => ∀ v : World, d.Unmoved t v.tree → v.tree.has (d.raw.file p s) = true →
    change v.tree ((d.routine.run (d.job p s)).on v).2.tree

/-- The routine leaves the raw files alone, and the list of its jobs. -/
structure LeavesRaw (d : Preprocessor) (t : Tree) : Prop where
  tree : ∀ x, d.EachJob t (fun _ after => d.Unmoved t after) x
  jobs : ∀ p s (v : World), d.Unmoved t v.tree → v.tree.has (d.raw.file p s) = true →
    ((d.routine.run (d.job p s)).on v).2.jobs = v.jobs

theorem Unmoved.writeAtomically (unmoved : d.Unmoved t u) (ready : d.Ready t) (p : Partition)
    (s : Split) (write : Except Failure Content) :
    d.Unmoved t ((Disk.writeAtomically (d.processed.file p s) write).on u).2 := by
  refine unmoved.of_confined ready (Disk.confined_writeAtomically d.processed p s write u) ?_
  rintro m (tmp | ⟨-, file⟩)
  · exact ⟨p, _, tmp.trans (inside_congr unmoved.workdir _ _ _)⟩
  · exact ⟨p, _, file.trans (inside_congr unmoved.workdir _ _ _)⟩

theorem native_run_on (j : Job) (w : World) :
    ((Routine.native.run j).on w).2 =
      { w with tree := ((Disk.convert j.input j.output j.split j.preview).on w.tree).2 } := by
  rw [Routine.native, Stage.on_bind, Stage.on_onTree]
  rcases (Disk.convert j.input j.output j.split j.preview).on w.tree with ⟨f | summary, after⟩ <;> rfl

theorem Ready.leavesRaw_of_native (ready : d.Ready t) (native : d.routine = .native) :
    d.LeavesRaw t := by
  constructor
  · intro x
    cases x with
    | directory p => trivial
    | split p s =>
      intro v unmoved has
      rw [native, native_run_on]
      exact (Disk.triesOnce_convert _ _ s d.preview v.tree).keeps unmoved
        fun write _ => unmoved.writeAtomically ready p s write
  · intro p s v unmoved has
    rw [native, native_run_on]

def due (d : Preprocessor) (t : Tree) (xs : List Task) : List Job :=
  ((xs.filterMap Task.split?).filter fun x => t.has (d.raw.file x.1 x.2)).map fun x => d.job x.1 x.2

theorem due_cons (d : Preprocessor) (t : Tree) (x : Task) (xs : List Task) :
    d.due t (x :: xs) = d.due t [x] ++ d.due t xs := by
  rw [due, ← List.singleton_append, List.filterMap_append, List.filter_append, List.map_append]
  rfl

theorem confined_directory (p : Partition) (w : World) :
    Confined ((d.processed.directory p).Passes w.tree.workdir) (fun _ => False) w.tree
      ((d.perform (.directory p)).on w).2.tree := by
  rw [perform, Stage.on_onTree]
  exact Disk.confined_makeDirectories _ w.tree

theorem Unmoved.perform (unmoved : d.Unmoved t w.tree) (ready : d.Ready t) (leaves : d.LeavesRaw t)
    (x : Task) : d.Unmoved t ((d.perform x).on w).2.tree ∧
      ((d.perform x).on w).2.jobs = w.jobs ++ d.due t [x] := by
  cases x with
  | directory p =>
    refine ⟨unmoved.of_confined ready (confined_directory p w) fun _ => False.elim, ?_⟩
    rw [Preprocessor.perform, Stage.on_onTree]
    exact (List.append_nil _).symm
  | split p s =>
    rw [perform_split_on]
    cases has : w.tree.has (d.raw.file p s) with
    | true =>
      have there : t.has (d.raw.file p s) = true := (unmoved.has p s).symm.trans has
      rw [if_pos rfl]
      refine ⟨leaves.tree (.split p s) _ unmoved has, ?_⟩
      rw [leaves.jobs p s { w with jobs := w.jobs ++ [d.job p s] } unmoved has]
      simp [due, Task.split?, there]
    | false =>
      have there : t.has (d.raw.file p s) = false := (unmoved.has p s).symm.trans has
      refine ⟨unmoved, ?_⟩
      simp [due, Task.split?, there]

theorem Runs.unmoved (run : d.Runs w xs result w') (ready : d.Ready t) (leaves : d.LeavesRaw t)
    (start : d.Unmoved t w.tree) : d.Unmoved t w'.tree :=
  run.keeps (fun w => d.Unmoved t w.tree)
    (fun x _ _ unmoved => (unmoved.perform ready leaves x).1) start

theorem Runs.jobs (run : d.Runs w xs result w') (ready : d.Ready t) (leaves : d.LeavesRaw t)
    (start : d.Unmoved t w.tree) : w'.jobs = w.jobs ++ d.due t xs := by
  induction run with
  | nil => exact (List.append_nil _).symm
  | @fails w w' x f stop =>
    have here := (start.perform ready leaves x).2
    rwa [stop] at here
  | @cons w between w' x xs result first _ ih =>
    obtain ⟨unmoved, here⟩ := start.perform ready leaves x
    rw [first] at unmoved here
    rw [ih unmoved, here, due_cons d t x xs, List.append_assoc]

/-- What each job brings about of a run, and each directory that is made, the run brings about. -/
theorem Runs.relates (run : d.Runs w xs result w') (ready : d.Ready t) (leaves : d.LeavesRaw t)
    (start : d.Unmoved t w.tree) (related : Tree → Tree → Prop) (refl : ∀ u, related u u)
    (trans : ∀ {u u' u''}, related u u' → related u' u'' → related u u'')
    (jobs : ∀ x ∈ xs, d.EachJob t related x)
    (directories : ∀ p, .directory p ∈ xs → ∀ v : World, d.Unmoved t v.tree →
      related w.tree v.tree → related v.tree ((d.perform (.directory p)).on v).2.tree) :
    related w.tree w'.tree := by
  refine (run.keeps (fun v => d.Unmoved t v.tree ∧ related w.tree v.tree) ?_
    ⟨start, refl _⟩).2
  rintro x member v ⟨unmoved, before⟩
  refine ⟨(unmoved.perform ready leaves x).1, trans before ?_⟩
  cases x with
  | directory p => exact directories p member v unmoved before
  | split p s =>
    rw [perform_split_on]
    split
    · rename_i has
      exact jobs _ member { v with jobs := v.jobs ++ [d.job p s] } unmoved has
    · exact refl _

def SameAt (m : Location) (u u' : Tree) : Prop := u'.get? m = u.get? m

theorem SameAt.trans {m : Location} {u u' u'' : Tree} (first : SameAt m u u')
    (second : SameAt m u' u'') : SameAt m u u'' := Eq.trans second first

section Left

variable {m : Location}

theorem sameAt_directory (p : Partition) (there : w.tree.get? m ≠ none) :
    SameAt m w.tree ((d.perform (.directory p)).on w).2.tree := by
  rcases (confined_directory p w).other m id with still | ⟨free, -⟩
  · exact still
  · exact absurd free there

/-- A run leaves an entry as it is if its jobs do: directories are made where nothing is. -/
theorem Runs.same_of_entry (run : d.Runs w xs result w') (ready : d.Ready t) (leaves : d.LeavesRaw t)
    (start : d.Unmoved t w.tree) (there : w.tree.get? m ≠ none)
    (spared : ∀ x ∈ xs, d.EachJob t (SameAt m) x) : w'.tree.get? m = w.tree.get? m := by
  refine run.relates ready leaves start (SameAt m) (fun _ => rfl) SameAt.trans spared ?_
  intro p _ v _ same
  exact sameAt_directory p (same ▸ there)

/-- A run leaves alone what lies below the output directory of a partition that it does not come to, if
its jobs do. -/
theorem Runs.same_of_later (run : d.Runs w xs result w') (ready : d.Ready w.tree)
    (leaves : d.LeavesRaw w.tree) {q : Partition} (later : .directory q ∉ xs)
    (below : w.tree.place d.processed ++ [q.name] <+: m)
    (spared : ∀ x ∈ xs, d.EachJob w.tree (SameAt m) x) : w'.tree.get? m = w.tree.get? m := by
  refine run.relates ready leaves ready.unmoved (SameAt m) (fun _ => rfl) SameAt.trans spared ?_
  intro p member v unmoved same
  by_cases free : w.tree.get? m = none
  · refine (confined_directory p v).same id fun passes => ?_
    rw [unmoved.workdir] at passes
    rcases directory_or_before_of_passes ready.sound ready.processed passes with old | above
    · rw [free] at old
      cases old
    · -- The directory of one partition is not on the way to that of another.
      obtain ⟨rest, whole⟩ := below.trans above
      rw [List.append_assoc, List.append_cancel_left_eq] at whole
      obtain ⟨name, -⟩ := List.cons.inj whole
      exact later (Partition.name_injective name ▸ member)
  · exact sameAt_directory p (same ▸ free)

theorem Runs.keepsDirectories (run : d.Runs w xs result w') (ready : d.Ready t)
    (leaves : d.LeavesRaw t) (start : d.Unmoved t w.tree)
    (kept : ∀ x ∈ xs, d.EachJob t KeepsDirectories x) : KeepsDirectories w.tree w'.tree :=
  run.relates ready leaves start KeepsDirectories .refl .trans kept fun p _ v _ _ => (confined_directory p v).keeps

/-- The output directories of the partitions that a run comes to are there afterwards, but for one that
could not be made. -/
theorem Runs.hasDirectory (run : d.Runs w xs result w') (ready : d.Ready t) (leaves : d.LeavesRaw t)
    (start : d.Unmoved t w.tree) (kept : ∀ x ∈ xs, d.EachJob t KeepsDirectories x)
    (member : .directory p ∈ xs) : w'.tree.hasDirectory (d.processed.directory p) = true ∨
      (∃ f, result = .error f) ∧ xs.getLast? = some (.directory p) := by
  induction run with
  | nil => cases member
  | fails stop =>
    obtain rfl := List.mem_singleton.mp member
    exact Or.inr ⟨⟨_, rfl⟩, rfl⟩
  | @cons w between w' x xs result first rest ih =>
    have unmoved := (start.perform ready leaves x).1
    rw [first] at unmoved
    have kept' : ∀ x ∈ xs, d.EachJob t KeepsDirectories x :=
      fun x later => kept x (List.mem_cons_of_mem _ later)
    rcases List.mem_cons.mp member with rfl | later
    · left
      obtain ⟨made, directory, rfl⟩ := Stage.onTree_on_ok.mp first
      exact hasDirectory_of_keeps (rest.keepsDirectories ready leaves unmoved kept')
        (Disk.hasDirectory_of_makeDirectories (directory_named d.processed p) directory)
    · refine (ih unmoved kept' later).imp id fun ⟨failed, last⟩ => ⟨failed, ?_⟩
      rw [List.getLast?_cons, last]
      rfl

end Left

section Records

variable {r : PreprocessRecord} {rs : List PreprocessRecord} {partitions : List Partition}

theorem Unmoved.runOne (unmoved : d.Unmoved t w.tree) (ready : d.Ready t) (leaves : d.LeavesRaw t)
    (ran : (d.runOne p s).on w = (.ok r, w')) : d.Unmoved t w'.tree ∧ r = d.recordOf t p s := by
  have after := (unmoved.perform ready leaves (.split p s)).1
  have record : d.recordOf w.tree p s = d.recordOf t p s := by
    rw [recordOf, recordOf, unmoved.has]
  rw [runOne_perform] at ran
  rcases performed : (d.perform (.split p s)).on w with ⟨f | u, between⟩
  all_goals
    rw [performed] at ran after
    cases ran
  exact ⟨after, record⟩

theorem Unmoved.runPartition (unmoved : d.Unmoved t w.tree) (ready : d.Ready t)
    (leaves : d.LeavesRaw t) (ran : (d.runPartition p).on w = (.ok rs, w')) :
    d.Unmoved t w'.tree ∧ rs = Split.staged.map (d.recordOf t p) := by
  obtain ⟨u, between, made, later⟩ := Stage.bind_on_ok.mp ran
  have start := (unmoved.perform ready leaves (.directory p)).1
  rw [Preprocessor.perform, made] at start
  obtain ⟨after, all, -⟩ := mapM_ok_of_steps (fun v : World => d.Unmoved t v.tree)
    (fun s r _ => r = d.recordOf t p s ∧ True) (fun _ _ => True) (fun _ => trivial)
    (fun _ _ => trivial) (fun brought _ => brought)
    (fun s _ v r v' unmoved ran => by
      obtain ⟨unmoved', record⟩ := unmoved.runOne ready leaves ran
      exact ⟨unmoved', ⟨record, trivial⟩, trivial⟩) start later
  exact ⟨after, (eq_map_of_forall₂ all).1⟩

theorem Ready.records (ready : d.Ready w.tree) (leaves : d.LeavesRaw w.tree)
    (ran : (d.runAll partitions).on w = (.ok rs, w')) :
    rs = (stagedSplits partitions).map fun x => d.recordOf w.tree x.1 x.2 := by
  obtain ⟨found, after, each, last⟩ := Stage.bind_on_ok.mp ran
  cases last
  obtain ⟨-, all, -⟩ := mapM_ok_of_steps (fun v : World => d.Unmoved w.tree v.tree)
    (fun p rs _ => rs = Split.staged.map (d.recordOf w.tree p) ∧ True) (fun _ _ => True)
    (fun _ => trivial) (fun _ _ => trivial) (fun brought _ => brought)
    (fun p _ v rs v' unmoved ran => by
      obtain ⟨unmoved', records⟩ := unmoved.runPartition ready leaves ran
      exact ⟨unmoved', ⟨records, trivial⟩, trivial⟩) ready.unmoved each
  rw [(eq_map_of_forall₂ all).1, map_stagedSplits, List.flatMap_def]

end Records

/-- A run performs its tasks in order, up to the first that fails, and hands to the routine the jobs of
those raw files that were there when it began. It succeeds if no task fails that it comes to, with one
record for each split. Whether it succeeds or fails, the output directories that it has come to are there,
but for one that could not be made, unless a job removed a directory; what lies below the output directory
of another partition is as it was, and what there was at any time stays, unless a job changed it. -/
theorem Ready.hands_over {partitions : List Partition}
    {result : Except Failure (List PreprocessRecord)} (ready : d.Ready w.tree)
    (leaves : d.LeavesRaw w.tree) (ran : (d.runAll partitions).on w = (result, w')) :
    ∃ begun, d.Runs w begun (result.map fun _ => ()) w' ∧ begun <+: tasks partitions ∧
      w'.jobs = w.jobs ++ (((begun.filterMap Task.split?).filter
        fun x => w.tree.has (d.raw.file x.1 x.2)).map
          fun x => ⟨d.raw.file x.1 x.2, d.processed.file x.1 x.2, x.2, d.preview⟩) ∧
      (result.isOk = true ↔ ∀ front x between, front ++ [x] <+: tasks partitions →
        d.Runs w front (.ok ()) between → ((d.perform x).on between).1.isOk = true) ∧
      (∀ records, result = .ok records → begun = tasks partitions ∧
        begun.filterMap Task.split? = stagedSplits partitions ∧
        records = (stagedSplits partitions).map (fun x => d.recordOf w.tree x.1 x.2) ∧
        records.countP (·.outcome.isProcessed) + records.countP (!·.outcome.isProcessed) =
          2 * partitions.length) ∧
      (∀ f, result = .error f → ∃ front x between, begun = front ++ [x] ∧
        d.Runs w front (.ok ()) between ∧ (d.perform x).on between = (.error f, w')) ∧
      (∀ p, .directory p ∈ begun → (∀ x ∈ begun, d.EachJob w.tree KeepsDirectories x) →
        w'.tree.hasDirectory (d.processed.directory p) = true ∨
          (∃ f, result = .error f) ∧ begun.getLast? = some (.directory p)) ∧
      (∀ q m, .directory q ∉ begun → w.tree.place d.processed ++ [q.name] <+: m →
        (∀ x ∈ begun, d.EachJob w.tree (SameAt m) x) → w'.tree.get? m = w.tree.get? m) ∧
      ∀ front back between m, begun = front ++ back → d.Runs w front (.ok ()) between →
        between.tree.get? m ≠ none → (∀ x ∈ back, d.EachJob w.tree (SameAt m) x) →
        w'.tree.get? m = between.tree.get? m := by
  obtain ⟨begun, run, begins, whole⟩ := follows_runAll (d := d) partitions w
  have succeeds := (follows_runAll (d := d) partitions).isOk_iff w
  rw [ran] at run whole succeeds
  refine ⟨begun, run, begins, run.jobs ready leaves ready.unmoved, succeeds, ?_, ?_, ?_, ?_, ?_⟩
  · rintro records rfl
    obtain rfl := whole rfl
    have made := ready.records leaves ran
    refine ⟨rfl, splits_tasks partitions, made, ?_⟩
    have all : records.length = 2 * partitions.length := by
      rw [made, List.length_map, length_stagedSplits]
    rw [← all, List.length_eq_countP_add_countP (·.outcome.isProcessed)]
    simp only [Bool.not_eq_true, Bool.decide_eq_false]
  · rintro f rfl
    exact run.exists_stop
  · intro p member kept
    refine (run.hasDirectory ready leaves ready.unmoved kept member).imp id fun ⟨⟨f, failed⟩, last⟩ => ?_
    refine ⟨⟨f, ?_⟩, last⟩
    cases result with
    | error g =>
      cases failed
      rfl
    | ok records => cases failed
  · exact fun q m later below spared => run.same_of_later ready leaves later below spared
  · rintro front back between m rfl before there spared
    exact (before.rest run).same_of_entry ready leaves (before.unmoved ready leaves ready.unmoved)
      there spared

section Two

def plain : Partition := ⟨"5ppl", rfl⟩

def mixed : Partition := ⟨"mix", rfl⟩

def twoRaw : World where
  tree := {
    workdir := ["work"]
    entries := [
      (["work"], .directory),
      (["work", "raw"], .directory),
      (["work", "raw", "5ppl"], .directory),
      (["work", "raw", "5ppl", "train.parquet"], .file .empty false),
      (["work", "raw", "mix"], .directory),
      (["work", "raw", "mix", "train.parquet"], .file .empty false)] }

def stopping (otherwise : Stage Unit) : Routine where
  name := "stopping"
  run j :=
    if j.output = ⟨"processed/mix/train.parquet"⟩ then do
      otherwise
      throw (.routine "stopped")
    else Stage.onTree (Disk.writeAtomically j.output (.ok .empty))

def halting : Preprocessor := ⟨⟨⟨"raw"⟩⟩, ⟨⟨"processed"⟩⟩, stopping (pure ()), 5⟩

theorem ready_twoRaw : halting.Ready twoRaw.tree :=
  ⟨by decide, ⟨[], _, _, rfl, rfl, by decide⟩, ⟨[], _, _, rfl, rfl, by decide⟩, by decide⟩

theorem stopping_run_on (j : Job) (w : World) : ((stopping (pure ())).run j).on w =
    if j.output = ⟨"processed/mix/train.parquet"⟩ then (.error (.routine "stopped"), w)
    else (Stage.onTree (Disk.writeAtomically j.output (.ok .empty))).on w := by
  show Stage.on (if j.output = _ then _ else _) w = _
  split <;> rfl

theorem leavesRaw_halting : halting.LeavesRaw twoRaw.tree := by
  constructor
  · intro x
    cases x with
    | directory p => trivial
    | split p s =>
      intro v unmoved has
      rw [halting, stopping_run_on]
      split
      · exact unmoved
      · rw [Stage.on_onTree]
        exact unmoved.writeAtomically ready_twoRaw p s (.ok .empty)
  · intro p s v unmoved has
    rw [halting, stopping_run_on]
    split
    · rfl
    · rw [Stage.on_onTree]

structure Ran (d : Preprocessor) (partitions : List Partition) (w : World)
    (holds : Except Failure (List PreprocessRecord) → World → Prop) where
  result : Except Failure (List PreprocessRecord)
  after : World
  ran : (d.runAll partitions).on w = (result, after)
  told : holds result after

def haltingRun : Ran halting [plain, mixed, plain] twoRaw fun result w' =>
    result.isOk = false ∧
    w'.jobs = [⟨⟨"raw/5ppl/train.parquet"⟩, ⟨"processed/5ppl/train.parquet"⟩, .train, 5⟩,
      ⟨⟨"raw/mix/train.parquet"⟩, ⟨"processed/mix/train.parquet"⟩, .train, 5⟩] :=
  ⟨_, _, (Prod.mk.eta).symm, by decide +kernel⟩

theorem hands_over_of_two : ∃ begun f w',
    (halting.runAll [plain, mixed, plain]).on twoRaw = (.error f, w') ∧
    begun <+: tasks [plain, mixed, plain] ∧
    w'.jobs = (((begun.filterMap Task.split?).filter
      fun x => twoRaw.tree.has (halting.raw.file x.1 x.2)).map fun x => halting.job x.1 x.2) ∧
    w'.jobs = [⟨⟨"raw/5ppl/train.parquet"⟩, ⟨"processed/5ppl/train.parquet"⟩, .train, 5⟩,
      ⟨⟨"raw/mix/train.parquet"⟩, ⟨"processed/mix/train.parquet"⟩, .train, 5⟩] ∧
    ∃ front x between, begun = front ++ [x] ∧ halting.Runs twoRaw front (.ok ()) between ∧
      (halting.perform x).on between = (.error f, w') := by
  obtain ⟨f | records, w', ran, fails, handed⟩ := haltingRun
  · obtain ⟨begun, -, begins, jobs, -, -, stops, -⟩ := ready_twoRaw.hands_over leavesRaw_halting ran
    exact ⟨begun, f, w', ran, begins, jobs, handed, stops f rfl⟩
  · cases fails

def idle : Routine where
  name := "idle"
  run _ := pure ()

def detouring : Preprocessor := ⟨⟨⟨"processed/mix/../../raw"⟩⟩, ⟨⟨"processed"⟩⟩, idle, 0⟩

def sweeping : Preprocessor :=
  ⟨⟨⟨"raw"⟩⟩, ⟨⟨"processed"⟩⟩, stopping (Stage.onTree (Disk.remove ⟨"processed/5ppl"⟩)), 5⟩

def detouringRun : Ran detouring [plain, mixed] twoRaw fun result w' =>
    result.isOk = true ∧ w'.jobs = [detouring.job mixed .train] :=
  ⟨_, _, (Prod.mk.eta).symm, by decide +kernel⟩

def sweepingRun : Ran sweeping [plain, mixed] twoRaw fun result w' =>
    result.isOk = false ∧
    w'.jobs = [sweeping.job plain .train, sweeping.job mixed .train] ∧
    (∀ x ∈ stagedSplits [plain, mixed],
      w'.tree.has (sweeping.raw.file x.1 x.2) = twoRaw.tree.has (sweeping.raw.file x.1 x.2)) ∧
    w'.tree.hasDirectory (sweeping.processed.directory plain) = false :=
  ⟨_, _, (Prod.mk.eta).symm, by decide +kernel⟩

/-- Where the raw root goes up from a directory that a run makes, a raw file is handed over that could not
be found when the run began, and one that lay there as well is passed over. And a routine that leaves the
raw files alone may take away what an earlier job left, with the directory that it lies in. -/
theorem run_finds_raw_late :
    (twoRaw.tree.Sound ∧ twoRaw.tree.Apart detouring.raw detouring.processed ∧
      (∀ x ∈ stagedSplits [plain, mixed],
        twoRaw.tree.has (detouring.raw.file x.1 x.2) = false) ∧
      ((detouring.runAll [plain, mixed]).on twoRaw).1.isOk = true ∧
      ((detouring.runAll [plain, mixed]).on twoRaw).2.jobs = [detouring.job mixed .train]) ∧
    twoRaw.tree.Apart sweeping.raw sweeping.processed ∧
    ((sweeping.runAll [plain, mixed]).on twoRaw).1.isOk = false ∧
    ((sweeping.runAll [plain, mixed]).on twoRaw).2.jobs =
      [sweeping.job plain .train, sweeping.job mixed .train] ∧
    (∀ x ∈ stagedSplits [plain, mixed],
      ((sweeping.runAll [plain, mixed]).on twoRaw).2.tree.has (sweeping.raw.file x.1 x.2) =
        twoRaw.tree.has (sweeping.raw.file x.1 x.2)) ∧
    ((sweeping.runAll [plain, mixed]).on twoRaw).2.tree.hasDirectory
      (sweeping.processed.directory plain) = false := by
  obtain ⟨_, w', ran, told⟩ := detouringRun
  obtain ⟨_, w'', swept, left⟩ := sweepingRun
  rw [ran, swept]
  exact ⟨⟨by decide, by decide, by decide, told⟩, by decide, left⟩

end Two

end PuzzlePrep.Preprocessor

import PuzzlePrep.Proofs.Stage.Preprocess

namespace PuzzlePrep.Preprocessor

inductive Task
  | directory (p : Partition)
  | split (p : Partition) (s : Split)
  deriving DecidableEq

def tasksOf (p : Partition) : List Task := .directory p :: Split.staged.map (.split p)

def tasks (partitions : List Partition) : List Task := partitions.flatMap tasksOf

def Task.split? : Task → Option (Partition × Split)
  | .directory _ => none
  | .split p s => some (p, s)

def perform (d : Preprocessor) : Task → Stage Unit
  | .directory p => Stage.onTree (Disk.makeDirectories (d.processed.directory p))
  | .split p s => do
    if (← Stage.tree).has (d.raw.file p s) then
      modify fun w => { w with jobs := w.jobs ++ [d.job p s] }
      d.routine.run (d.job p s)

/-- Tasks performed one after another, of which only the last may fail. -/
inductive Runs (d : Preprocessor) : World → List Task → Except Failure Unit → World → Prop
  | nil (w : World) : Runs d w [] (.ok ()) w
  | fails {w w' : World} {x : Task} {f : Failure} (stop : (d.perform x).on w = (.error f, w')) :
    Runs d w [x] (.error f) w'
  | cons {w between w' : World} {x : Task} {xs : List Task} {result : Except Failure Unit}
    (first : (d.perform x).on w = (.ok (), between)) (rest : Runs d between xs result w') :
    Runs d w (x :: xs) result w'

variable {α β : Type} {d : Preprocessor} {w between w' : World} {x : Task} {xs ys : List Task}
  {result : Except Failure Unit} {p : Partition} {s : Split}

theorem splits_tasks (partitions : List Partition) :
    (tasks partitions).filterMap Task.split? = stagedSplits partitions := by
  rw [tasks, List.filterMap_flatMap, stagedSplits]
  rfl

theorem perform_split_on (d : Preprocessor) (p : Partition) (s : Split) (w : World) :
    (d.perform (.split p s)).on w =
      if w.tree.has (d.raw.file p s) then
        (d.routine.run (d.job p s)).on { w with jobs := w.jobs ++ [d.job p s] }
      else (.ok (), w) := by
  rw [perform, Stage.on_bind, Stage.on_tree]
  dsimp only
  split
  · rw [Stage.on_bind, Stage.on_modify]
  · rfl

theorem runOne_perform (d : Preprocessor) (p : Partition) (s : Split) (w : World) :
    (d.runOne p s).on w =
      (((d.perform (.split p s)).on w).1.map fun _ => d.recordOf w.tree p s,
        ((d.perform (.split p s)).on w).2) := by
  rw [perform_split_on, runOne, Stage.on_bind, Stage.on_tree]
  dsimp only
  cases has : w.tree.has (d.raw.file p s) with
  | true =>
    have has' : w.tree.has (d.job p s).input = true := has
    rw [has', if_pos rfl, if_pos rfl, Stage.on_bind, Stage.on_modify]
    dsimp only
    rw [Stage.on_bind]
    rcases (d.routine.run (d.job p s)).on { w with jobs := w.jobs ++ [d.job p s] } with ⟨f | u, after⟩
    · rfl
    · simp only [Except.map, recordOf, has, if_true]
      rfl
  | false =>
    have has' : w.tree.has (d.job p s).input = false := has
    rw [has', recordOf, has]
    rfl

theorem Runs.append (front : d.Runs w xs (.ok ()) between) (back : d.Runs between ys result w') :
    d.Runs w (xs ++ ys) result w' := by
  generalize done : (Except.ok () : Except Failure Unit) = r at front
  induction front with
  | nil => exact back
  | fails => cases done
  | cons first _ ih => exact .cons first (ih back done)

theorem Runs.of_first (first : (d.perform x).on w = (.ok (), between))
    (whole : d.Runs w (x :: xs) result w') : d.Runs between xs result w' := by
  cases whole with
  | fails stop =>
    rw [first] at stop
    cases stop
  | cons first' rest =>
    rw [first] at first'
    cases first'
    exact rest

/-- What is performed depends on the tasks and the world alone. -/
theorem Runs.rest (front : d.Runs w xs (.ok ()) between) (whole : d.Runs w (xs ++ ys) result w') :
    d.Runs between ys result w' := by
  generalize done : (Except.ok () : Except Failure Unit) = r at front
  induction front with
  | nil => exact whole
  | fails => cases done
  | cons first _ ih => exact ih (.of_first first whole) done

theorem Runs.exists_stop {f : Failure} (run : d.Runs w xs (.error f) w') : ∃ front x between,
    xs = front ++ [x] ∧ d.Runs w front (.ok ()) between ∧
      (d.perform x).on between = (.error f, w') := by
  generalize failed : (Except.error f : Except Failure Unit) = r at run
  induction run with
  | nil => cases failed
  | @fails w w' x f stop =>
    cases failed
    exact ⟨[], x, w, rfl, .nil w, stop⟩
  | @cons w between w' x xs result first _ ih =>
    obtain ⟨front, y, last, rfl, before, stop⟩ := ih failed
    exact ⟨x :: front, y, last, rfl, .cons first before, stop⟩

theorem Runs.keeps (run : d.Runs w xs result w') (holds : World → Prop)
    (step : ∀ x ∈ xs, ∀ v, holds v → holds ((d.perform x).on v).2) (start : holds w) : holds w' := by
  induction run with
  | nil => exact start
  | fails stop =>
    have after := step _ List.mem_cons_self _ start
    rwa [stop] at after
  | cons first _ ih =>
    have between := step _ List.mem_cons_self _ start
    rw [first] at between
    exact ih (fun x member => step x (List.mem_cons_of_mem _ member)) between

/-- A computation that performs these tasks up to the first that fails, whatever it gives back. -/
def Follows (d : Preprocessor) (m : Stage α) (xs : List Task) : Prop :=
  ∀ w, ∃ begun, d.Runs w begun ((m.on w).1.map fun _ => ()) (m.on w).2 ∧ begun <+: xs ∧
    ((m.on w).1.isOk = true → begun = xs)

theorem follows_pure (a : α) : d.Follows (pure a) [] :=
  fun w => ⟨[], .nil w, List.prefix_rfl, fun _ => rfl⟩

theorem follows_perform (x : Task) : d.Follows (d.perform x) [x] := by
  intro w
  refine ⟨[x], ?_, List.prefix_rfl, fun _ => rfl⟩
  rcases ran : (d.perform x).on w with ⟨f | u, w'⟩
  · exact .fails ran
  · exact .cons ran (.nil w')

theorem follows_runOne (p : Partition) (s : Split) : d.Follows (d.runOne p s) [.split p s] := by
  intro w
  obtain ⟨begun, run, front, whole⟩ := follows_perform (d := d) (.split p s) w
  rw [runOne_perform]
  rcases ran : (d.perform (.split p s)).on w with ⟨f | u, w'⟩
  all_goals
    rw [ran] at run whole
    exact ⟨begun, run, front, whole⟩

theorem Follows.bind {m : Stage α} {k : α → Stage β} (first : d.Follows m xs)
    (next : ∀ a, d.Follows (k a) ys) : d.Follows (m >>= k) (xs ++ ys) := by
  intro w
  obtain ⟨begun, run, front, whole⟩ := first w
  rw [Stage.on_bind]
  rcases ran : m.on w with ⟨f | a, between⟩
  all_goals rw [ran] at run whole
  · exact ⟨begun, run, front.trans (List.prefix_append _ _), nofun⟩
  · obtain rfl := whole rfl
    obtain ⟨more, later, front', whole'⟩ := next a between
    exact ⟨begun ++ more, run.append later, (List.prefix_append_right_inj _).mpr front',
      fun succeeded => by rw [whole' succeeded]⟩

theorem Follows.mapM {γ : Type} {g : γ → Stage β} {h : γ → List Task}
    (each : ∀ c, d.Follows (g c) (h c)) (cs : List γ) : d.Follows (cs.mapM g) (cs.flatMap h) := by
  induction cs with
  | nil => exact follows_pure _
  | cons c cs ih =>
    rw [List.mapM_cons, List.flatMap_cons, ← List.append_nil (cs.flatMap h)]
    exact (each c).bind fun b => ih.bind fun bs => follows_pure _

theorem follows_runPartition (p : Partition) : d.Follows (d.runPartition p) (tasksOf p) := by
  have splits := Follows.mapM (fun s => follows_runOne (d := d) p s) Split.staged
  rw [← List.map_eq_flatMap] at splits
  exact (follows_perform (.directory p)).bind fun _ => splits

theorem follows_runAll (partitions : List Partition) :
    d.Follows (d.runAll partitions) (tasks partitions) := by
  rw [← List.append_nil (tasks partitions)]
  exact (Follows.mapM follows_runPartition partitions).bind fun _ => follows_pure _

/-- A run succeeds if no task fails that it comes to. -/
theorem Follows.isOk_iff {m : Stage α} (follows : d.Follows m xs) (w : World) :
    (m.on w).1.isOk = true ↔ ∀ front x between, front ++ [x] <+: xs →
      d.Runs w front (.ok ()) between → ((d.perform x).on between).1.isOk = true := by
  obtain ⟨begun, run, begins, whole⟩ := follows w
  rcases ran : m.on w with ⟨f | a, w'⟩
  · rw [ran] at run
    refine ⟨nofun, fun never => ?_⟩
    obtain ⟨front, x, between, rfl, before, stop⟩ := run.exists_stop
    have succeeds := never front x between begins before
    rw [stop] at succeeds
    exact succeeds
  · rw [ran] at run whole
    refine ⟨fun _ front x between ahead before => ?_, fun _ => rfl⟩
    obtain rfl := whole rfl
    obtain ⟨more, rfl⟩ := ahead
    rw [List.append_assoc] at run
    cases before.rest run with
    | cons first => simp only [first, Except.isOk, Except.toBool]

end PuzzlePrep.Preprocessor

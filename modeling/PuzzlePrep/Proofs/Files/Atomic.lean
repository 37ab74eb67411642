import PuzzlePrep.Files.Atomic
import PuzzlePrep.Proofs.Files.Directories

namespace PuzzlePrep

open PuzzlePrep.Tree

namespace Tree

/-- The file at `goal` is replaced, the one at `origin` is gone, and all else is as before. -/
structure Replaced (t t' : Tree) (origin goal : Location) (content : Content) : Prop where
  workdir : t'.workdir = t.workdir
  filled : ∃ executable, t'.get? goal = some (.file content executable)
  gone : origin ≠ goal → t'.get? origin = none
  other : ∀ l, l ≠ origin → l ≠ goal → t'.get? l = t.get? l

variable {t t' : Tree} {origin goal : Location} {content : Content}

theorem Replaced.keeps (h : Replaced t t' origin goal content)
    (originFile : t.get? origin ≠ some .directory) (goalFile : t.get? goal ≠ some .directory) :
    KeepsDirectories t t' := by
  refine ⟨h.workdir, fun l directory => ?_⟩
  rw [h.other l, directory]
  · rintro rfl
    exact originFile directory
  · rintro rfl
    exact goalFile directory

theorem get?_put_file (executable : Bool) (named : origin ≠ []) (l : Location) :
    (t.put origin (.file content executable)).get? l = some .directory ↔
      l ≠ origin ∧ t.get? l = some .directory := by
  rw [get?_put _ _ named]
  split
  · rename_i here
    simp [here]
  · rename_i other
    simp [other]

theorem keeps_put_file (content : Content) (executable : Bool) (named : origin ≠ [])
    (file : t.get? origin ≠ some .directory) :
    KeepsDirectories t (t.put origin (.file content executable)) ∧
      KeepsDirectories (t.put origin (.file content executable)) t := by
  refine ⟨⟨rfl, fun l directory => ?_⟩, ⟨rfl, fun l directory => ?_⟩⟩
  · refine (get?_put_file executable named l).mpr ⟨?_, directory⟩
    rintro rfl
    exact file directory
  · exact ((get?_put_file executable named l).mp directory).2

theorem FileAt.put_file {p : Path} {l : Location} {executable : Bool} (named : origin ≠ [])
    (file : t.get? origin ≠ some .directory) :
    (t.put origin (.file content executable)).FileAt p l ↔ t.FileAt p l := by
  obtain ⟨there, back⟩ := keeps_put_file content executable named file
  constructor
  · intro h
    refine h.of_keeps back fun directory => ?_
    exact h.2 (there.directory l directory)
  · intro h
    refine h.of_keeps there fun directory => ?_
    exact h.2 (back.directory l directory)

theorem find_put_file {p : Path} (sibling : t.FileAt p origin) (content : Content)
    (executable : Bool) : (t.put origin (.file content executable)).find p =
      .ok (origin, .file content executable) := by
  refine find_eq_file_iff.mpr ⟨(FileAt.put_file sibling.ne_nil sibling.2).mpr sibling, ?_⟩
  rw [get?_put _ _ sibling.ne_nil, if_pos rfl]

theorem replaced_put_drop_put (executable : Bool) (origin_ne : origin ≠ []) (goal_ne : goal ≠ []) :
    Replaced t (((t.put origin (.file content executable)).drop origin).put goal
      (.file content executable)) origin goal content := by
  refine ⟨rfl, ⟨executable, ?_⟩, fun differ => ?_, fun l other other' => ?_⟩
  · rw [get?_put _ _ goal_ne, if_pos rfl]
  · rw [get?_put _ _ goal_ne, if_neg differ, get?_drop _ origin_ne, if_pos rfl]
  · rw [get?_put _ _ goal_ne, if_neg other', get?_drop _ origin_ne, if_neg other,
      get?_put _ _ origin_ne, if_neg other]

theorem put_drop (t : Tree) (l : Location) (e : Entry) : (t.put l e).drop l = t.drop l := by
  simp [put, drop]

theorem put_put (t : Tree) (l : Location) (e e' : Entry) : (t.put l e).put l e' = t.put l e' := by
  simp [put]

end Tree

namespace Disk

variable {t t' : Tree} {p : Path}

def replace (p : Path) (write : Except Failure Content) : Disk Unit := do
  let l ← createFile p.temporary
  match write with
  | .error f => abandon p.temporary f
  | .ok content =>
    fill l content
    tryCatch (rename p.temporary p) (abandon p.temporary)

theorem writeAtomically_eq (p : Path) (write : Except Failure Content) :
    writeAtomically p write =
      match p.parent? with
      | some parent => do
        makeDirectories parent
        replace p write
      | none => replace p write := by
  unfold writeAtomically
  cases p.parent? <;> rfl

theorem abandon_on_ne_ok {α : Type} {sibling : Path} {f : Failure} {a : α} :
    (abandon sibling f : Disk α).on t ≠ (.ok a, t') := by
  intro h
  obtain ⟨_, between, -, thrown⟩ := bind_on_ok.mp h
  cases thrown

theorem tryCatch_abandon_on_ok {α : Type} {d : Disk α} {sibling : Path} {a : α} :
    (tryCatch d (abandon sibling)).on t = (.ok a, t') ↔ d.on t = (.ok a, t') := by
  rw [on_tryCatch]
  rcases d.on t with ⟨f | b, between⟩
  · exact ⟨fun h => absurd h abandon_on_ne_ok, nofun⟩
  · exact Iff.rfl

theorem replace_on_ok {write : Except Failure Content} :
    (replace p write).on t = (.ok (), t') ↔ ∃ content origin goal, write = .ok content ∧
      t.FileAt p.temporary origin ∧ t.FileAt p goal ∧
      t' = ((t.put origin (.file content (t.executableAt origin))).drop origin).put goal
        (.file content (t.executableAt origin)) := by
  have opened {origin : Location} (sibling : t.FileAt p.temporary origin) (content : Content) :
      (fill origin content).on (t.put origin (.file .empty (t.executableAt origin))) =
        (.ok (), t.put origin (.file content (t.executableAt origin))) := by
    have empty : (t.put origin (.file .empty (t.executableAt origin))).get? origin =
        some (.file .empty (t.executableAt origin)) := by
      rw [get?_put _ _ sibling.ne_nil, if_pos rfl]
    rw [fill_on _ _ _ empty, put_put]
  have moved {origin : Location} (sibling : t.FileAt p.temporary origin) (content : Content) :
      (rename p.temporary p).on (t.put origin (.file content (t.executableAt origin))) =
          (.ok (), t') ↔
        ∃ goal, t.FileAt p goal ∧
          t' = ((t.put origin (.file content (t.executableAt origin))).drop origin).put goal
            (.file content (t.executableAt origin)) := by
    rw [rename_on_ok ((FileAt.put_file sibling.ne_nil sibling.2).mpr sibling)
      (by rw [get?_put _ _ sibling.ne_nil, if_pos rfl])]
    simp only [FileAt.put_file sibling.ne_nil sibling.2]
  constructor
  · intro h
    obtain ⟨origin, between, created, h⟩ := bind_on_ok.mp h
    obtain ⟨sibling, rfl⟩ := createFile_on_ok.mp created
    cases write with
    | error f => exact absurd h abandon_on_ne_ok
    | ok content =>
      obtain ⟨_, between, filled, h⟩ := bind_on_ok.mp h
      rw [opened sibling, Prod.mk.injEq] at filled
      obtain ⟨-, rfl⟩ := filled
      obtain ⟨goal, target, result⟩ := (moved sibling content).mp (tryCatch_abandon_on_ok.mp h)
      exact ⟨content, origin, goal, rfl, sibling, target, result⟩
  · rintro ⟨content, origin, goal, rfl, sibling, target, result⟩
    refine bind_on_ok.mpr ⟨origin, _, createFile_on_ok.mpr ⟨sibling, rfl⟩, ?_⟩
    refine bind_on_ok.mpr ⟨(), _, opened sibling content, ?_⟩
    exact tryCatch_abandon_on_ok.mpr ((moved sibling content).mpr ⟨goal, target, result⟩)

theorem replaced_of_replace {write : Except Failure Content}
    (h : (replace p write).on t = (.ok (), t')) : ∃ content origin goal, write = .ok content ∧
      t.FileAt p.temporary origin ∧ t.FileAt p goal ∧ Replaced t t' origin goal content := by
  obtain ⟨content, origin, goal, given, sibling, target, rfl⟩ := replace_on_ok.mp h
  exact ⟨content, origin, goal, given, sibling, target,
    replaced_put_drop_put _ sibling.ne_nil target.ne_nil⟩

/-- A successful write: directories may be made first, then the file is replaced. -/
theorem writeAtomically_on_ok {write : Except Failure Content} :
    (writeAtomically p write).on t = (.ok (), t') ↔ ∃ between,
      (match p.parent? with
        | some parent => (makeDirectories parent).on t = (.ok (), between)
        | none => between = t) ∧
      (replace p write).on between = (.ok (), t') := by
  rw [writeAtomically_eq]
  cases p.parent? with
  | none => simp
  | some parent =>
    rw [bind_on_ok]
    exact ⟨fun ⟨_, between, made, h⟩ => ⟨between, made, h⟩,
      fun ⟨between, made, h⟩ => ⟨(), between, made, h⟩⟩

structure Written (p : Path) (content : Content) (t t' : Tree) (origin goal : Location) : Prop where
  sibling : t'.FileAt p.temporary origin
  target : t'.FileAt p goal
  find : ∃ executable, t'.find p = .ok (goal, .file content executable)
  gone : origin ≠ goal → t'.get? origin = none
  keeps : KeepsDirectories t t'
  other : ∀ l, l ≠ origin → l ≠ goal →
    t'.get? l = t.get? l ∨ t.get? l = none ∧ t'.get? l = some .directory

theorem written_of_replaced {between : Tree} {content : Content} {origin goal : Location}
    (grows : Grows t between) (sibling : between.FileAt p.temporary origin)
    (target : between.FileAt p goal) (result : Replaced between t' origin goal content) :
    Written p content t t' origin goal := by
  have keeps := result.keeps sibling.2 target.2
  obtain ⟨executable, filled⟩ := result.filled
  have target' : t'.FileAt p goal := target.of_keeps keeps (by simp [filled])
  refine ⟨sibling.of_keeps keeps ?_, target', ⟨executable, ?_⟩, result.gone,
    grows.keeps.trans keeps, fun l other other' => ?_⟩
  · by_cases same : origin = goal
    · simp [same, filled]
    · simp [result.gone same]
  · exact find_eq_file_iff.mpr ⟨target', filled⟩
  · rw [result.other l other other']
    exact grows.get? l

theorem written_of_writeAtomically {write : Except Failure Content}
    (h : (writeAtomically p write).on t = (.ok (), t')) :
    ∃ content origin goal, write = .ok content ∧ Written p content t t' origin goal := by
  obtain ⟨between, made, replaced⟩ := writeAtomically_on_ok.mp h
  have grows : Grows t between := by
    split at made
    · exact grows_makeDirectories made
    · rw [made]
      exact .refl t
  obtain ⟨content, origin, goal, given, sibling, target, result⟩ := replaced_of_replace replaced
  exact ⟨content, origin, goal, given, written_of_replaced grows sibling target result⟩

/-- What was written once can be written again, and then no directory is made. -/
theorem writeAtomically_again {write : Except Failure Content}
    (h : (writeAtomically p write).on t = (.ok (), t')) (content : Content) :
    ∃ t'' origin goal, (writeAtomically p (.ok content)).on t' = (.ok (), t'') ∧
      t'.FileAt p.temporary origin ∧ t'.FileAt p goal ∧ Replaced t' t'' origin goal content := by
  obtain ⟨between, made, replaced⟩ := writeAtomically_on_ok.mp h
  obtain ⟨_, origin, goal, -, sibling, target, result⟩ := replaced_of_replace replaced
  have keeps := result.keeps sibling.2 target.2
  have written := written_of_replaced (.refl between) sibling target result
  have again := replace_on_ok.mpr ⟨content, origin, goal, rfl, written.sibling, written.target, rfl⟩
  refine ⟨_, origin, goal, writeAtomically_on_ok.mpr ⟨t', ?_, again⟩, written.sibling,
    written.target, replaced_put_drop_put _ sibling.ne_nil target.ne_nil⟩
  split
  · rename_i parent above
    rw [above] at made
    exact makeDirectories_again made keeps
  · rfl

end Disk

end PuzzlePrep

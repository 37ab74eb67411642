import PuzzlePrep.Proofs.Files.Alike

namespace PuzzlePrep

open PuzzlePrep.Path PuzzlePrep.Tree

def Tree.contentAt? (t : Tree) (m : Location) : Option Content := (t.get? m).bind Entry.content?

/-- A location is as it was, or a path leads through it and has got a directory there. -/
def Untouched (way : Path) (t t' : Tree) (m : Location) : Prop :=
  t'.get? m = t.get? m ∨ way.Passes t.workdir m ∧ t.get? m = none ∧ t'.get? m = some .directory

section Untouched

variable {way : Path} {t t' : Tree} {m : Location} {files : Location → Prop}

theorem Tree.Confined.untouched (h : Confined (way.Passes t.workdir) files t t')
    (outside : ¬ files m) : Untouched way t t' m := by
  rcases h.other m outside with same | ⟨free, made⟩
  · exact Or.inl same
  · rcases h.made m made with old | passes
    · rw [free] at old
      cases old
    · exact Or.inr ⟨passes, free, made⟩

theorem Untouched.contentAt? (h : Untouched way t t' m) : t'.contentAt? m = t.contentAt? m := by
  rcases h with same | ⟨-, free, made⟩
  · rw [Tree.contentAt?, same, Tree.contentAt?]
  · rw [Tree.contentAt?, made, Tree.contentAt?, free]
    rfl

end Untouched

theorem Split.fileName_ne_temporary (s : Split) (name : String) : name ++ ".tmp" ≠ s.fileName := by
  intro same
  have last := congrArg (fun name : String => name.toList.getLast?) same
  cases s <;> simp [Split.fileName] at last

structure Target where
  layout : Layout
  partition : Partition
  split : Split

namespace Target

def directory (g : Target) : Path := g.layout.directory g.partition

def path (g : Target) : Path := g.layout.file g.partition g.split

def place (g : Target) (t : Tree) : Location := t.inside g.layout g.partition g.split.fileName

def sibling (g : Target) (t : Tree) : Location :=
  t.inside g.layout g.partition (g.split.fileName ++ ".tmp")

variable {g : Target} {t t' : Tree} {write : Except Failure Content}

theorem place_eq (workdir : t'.workdir = t.workdir) (g : Target) : g.place t' = g.place t :=
  inside_congr workdir _ _ _

theorem sibling_eq (workdir : t'.workdir = t.workdir) (g : Target) :
    g.sibling t' = g.sibling t := inside_congr workdir _ _ _

theorem sibling_ne_place (g g' : Target) (same : g.layout = g'.layout) (t : Tree) :
    g.sibling t ≠ g'.place t := by
  intro places
  rw [sibling, place, same] at places
  exact g.split.temporary_ne g'.split (inside_inj.mp places).2

theorem place_ne_temporary (g : Target) (t : Tree) (here : Location) (name : String) :
    g.place t ≠ here ++ [name ++ ".tmp"] := by
  have split : g.place t = t.place g.layout ++ [g.partition.name] ++ [g.split.fileName] := by
    simp [place, inside]
  rw [split]
  intro same
  have names := (List.append_inj' same rfl).2
  exact g.split.fileName_ne_temporary name (List.cons.inj names).1.symm

theorem confined (g : Target) (write : Except Failure Content) (t : Tree) :
    Confined (g.directory.Passes t.workdir)
      (fun m => m = g.sibling t ∨
        ((Disk.writeAtomically g.path write).on t).1.isOk = true ∧ m = g.place t)
      t ((Disk.writeAtomically g.path write).on t).2 :=
  Disk.confined_writeAtomically g.layout g.partition g.split write t

/-- The target is as it was: there is the same at its place, and its path leads to what it led to and to
nothing that was not there. -/
structure Kept (g : Target) (t t' : Tree) : Prop where
  place : t'.get? (g.place t) = t.get? (g.place t)
  leads : ∀ r, t.find g.path = .ok r → t'.find g.path = .ok r
  came : ∀ m e, t'.find g.path = .ok (m, e) → t.get? m = some e

theorem find_of_keeps (keeps : KeepsDirectories t t')
    (kept : t'.get? (g.place t) = t.get? (g.place t) ∨ t.get? (g.place t) = none)
    {r : Location × Entry} (found : t.find g.path = .ok r) : t'.find g.path = .ok r := by
  obtain ⟨m, e⟩ := r
  obtain ⟨atPlace, there, -⟩ := find_eq_inside g.split.plainName found
  refine find_inside_of_keeps g.split.plainName keeps ?_ found
  subst atPlace
  rcases kept with same | free
  · exact same
  · rw [show t.get? (t.inside g.layout g.partition g.split.fileName) = none from free] at there
    cases there

theorem kept_of_place (keeps : KeepsDirectories t t')
    (same : t'.get? (g.place t) = t.get? (g.place t)) : g.Kept t t' := by
  refine ⟨same, fun r => find_of_keeps keeps (Or.inl same), fun m e found => ?_⟩
  obtain ⟨rfl, there, -⟩ := find_eq_inside g.split.plainName found
  rw [inside_congr keeps.workdir] at there ⊢
  exact same.symm.trans there

theorem kept_of_untouched (sound : t.Sound) (settled : t.Settled g.layout)
    (keeps : KeepsDirectories t t') (h : Untouched g.directory t t' (g.place t)) : g.Kept t t' := by
  rcases h with same | ⟨passes, free, -⟩
  · exact kept_of_place keeps same
  · rcases directory_or_above_of_passes sound settled passes with directory | above
    · rw [free] at directory
      cases directory
    · exact absurd above (not_above_inside _ _ _)

/-- A failed attempt may have made the directory, and its sibling may be gone. -/
theorem get?_of_failed {f : Failure} (ran : (Disk.writeAtomically g.path write).on t = (.error f, t'))
    (m : Location) : t'.get? m = ((Disk.makeDirectories g.directory).on t).2.get? m ∨
      m = g.sibling t ∧ t'.get? m = none := by
  rw [path, Disk.writeAtomically_file, Disk.on_bind, ← directory] at ran
  have first := Disk.confined_makeDirectories g.directory t
  rcases made : (Disk.makeDirectories g.directory).on t with ⟨e | u, between⟩
  · rw [made] at ran
    cases ran
    exact Or.inl rfl
  · rw [made] at first ran
    rcases (Disk.replace_on_error ran).2 with rfl | ⟨origin, e, opened, rfl⟩
    · exact Or.inl rfl
    · rw [temporary_file] at opened
      have here : origin = g.sibling t :=
        (fileAt_eq_inside g.split.plainName_temporary opened).trans (sibling_eq first.keeps.workdir g)
      subst here
      by_cases atSibling : m = g.sibling t
      · refine Or.inr ⟨atSibling, ?_⟩
        rw [atSibling, get?_drop _ opened.ne_nil, if_pos rfl]
      · exact Or.inl (Disk.get?_put_drop opened.ne_nil atSibling)

theorem failed {f : Failure} (ran : (Disk.writeAtomically g.path write).on t = (.error f, t')) :
    KeepsDirectories t t' ∧
      ∀ m, Untouched g.directory t t' m ∨ m = g.sibling t ∧ t'.get? m = none := by
  have confined := g.confined write t
  rw [ran] at confined
  refine ⟨confined.keeps, fun m => (get?_of_failed ran m).imp_left fun same => ?_⟩
  rw [Untouched, same]
  exact (Disk.confined_makeDirectories g.directory t).untouched id

/-- Where the root is there, an attempt makes no other directory than that of the partition, and it
changes the file only if it succeeds. -/
theorem get?_of_rootOf {root : Location} (rooted : t.rootOf g.layout = .ok root)
    (write : Except Failure Content) {m : Location} (directory : m ≠ root ++ [g.partition.name])
    (sibling : m ≠ g.sibling t)
    (place : ((Disk.writeAtomically g.path write).on t).1.isOk = true → m ≠ g.place t) :
    ((Disk.writeAtomically g.path write).on t).2.get? m = t.get? m := by
  rcases ran : (Disk.writeAtomically g.path write).on t with ⟨f | u, after⟩
  · rcases get?_of_failed ran m with same | ⟨atSibling, -⟩
    · rw [same]
      exact Disk.get?_makeDirectories_of_rootOf rooted directory
    · exact absurd atSibling sibling
  · obtain ⟨content, -, written⟩ := Disk.writtenFile_of_writeAtomically rooted ran
    rw [ran] at place
    rw [rootOf_eq_place rooted] at written directory
    exact written.other m directory (place rfl) sibling

theorem finished (ran : (Disk.writeAtomically g.path write).on t = (.ok (), t')) :
    KeepsDirectories t t' ∧ t'.get? (g.sibling t) = none ∧
      (∃ content, write = .ok content ∧ t'.contentAt? (g.place t) = some content) ∧
      ∀ m, m ≠ g.sibling t → m ≠ g.place t → Untouched g.directory t t' m := by
  have confined := g.confined write t
  rw [ran] at confined
  obtain ⟨content, given, holds⟩ := Holds.of_writeAtomically ran
  obtain ⟨executable, filled⟩ := holds.filled
  have gone : t'.get? (g.sibling t') = none := holds.gone
  have there : t'.get? (g.place t') = some (.file content executable) := filled
  rw [sibling_eq confined.keeps.workdir] at gone
  rw [place_eq confined.keeps.workdir] at there
  refine ⟨confined.keeps, gone, ⟨content, given, ?_⟩, fun m tmp file => confined.untouched ?_⟩
  · rw [Tree.contentAt?, there]
    rfl
  · rintro (atSibling | ⟨-, atPlace⟩)
    · exact tmp atSibling
    · exact file atPlace

end Target

structure Attempt where
  target : Target
  written? : Option Content

def Attempt.of (target : Target) (write : Except Failure Content) (result : Except Failure Unit) :
    Attempt := ⟨target, result.toOption.bind fun _ => write.toOption⟩

/-- Every file is an old one or the whole of what a finished attempt has put there, no file is gone but
a sibling that was written through, and no file with a temporary name is new. The paths of files lead
where they led, and a path that leads to a file leads to an old one or to a whole new one. -/
structure AllOrNothing (attempts : List Attempt) (t t' : Tree) : Prop where
  keeps : KeepsDirectories t t'
  whole : ∀ m content, t'.contentAt? m = some content → t.contentAt? m = some content ∨
    ∃ a ∈ attempts, a.written? = some content ∧ m = a.target.place t
  stays : ∀ m, t.contentAt? m ≠ none → t'.contentAt? m = none →
    ∃ a ∈ attempts, m = a.target.sibling t
  temporary : ∀ here name content, t'.contentAt? (here ++ [name ++ ".tmp"]) = some content →
    t.contentAt? (here ++ [name ++ ".tmp"]) = some content
  leads : ∀ q m content executable, t.find q = .ok (m, .file content executable) →
    (∃ content' executable', t'.find q = .ok (m, .file content' executable')) ∨
      ∃ a ∈ attempts, m = a.target.sibling t
  gains : ∀ q m content executable, t'.find q = .ok (m, .file content executable) →
    t.contentAt? m = some content ∨ ∃ a ∈ attempts, a.written? = some content ∧ m = a.target.place t

namespace AllOrNothing

variable {attempts attempts' : List Attempt} {t t' t'' : Tree}

theorem intro (keeps : KeepsDirectories t t')
    (whole : ∀ m content, t'.contentAt? m = some content → t.contentAt? m = some content ∨
      ∃ a ∈ attempts, a.written? = some content ∧ m = a.target.place t)
    (stays : ∀ m, t.contentAt? m ≠ none → t'.contentAt? m = none →
      ∃ a ∈ attempts, m = a.target.sibling t) : AllOrNothing attempts t t' := by
  refine ⟨keeps, whole, stays, fun here name content there => ?_,
    fun q m content executable led => ?_, fun q m content executable leads => ?_⟩
  · rcases whole _ _ there with old | ⟨a, -, -, place⟩
    · exact old
    · exact absurd place.symm (a.target.place_ne_temporary t here name)
  · -- A path leads to its file as long as the file is there, since the directories stay.
    obtain ⟨file, here⟩ := find_eq_file_iff.mp led
    have old : t.contentAt? m ≠ none := by
      rw [Tree.contentAt?, here]
      exact Option.some_ne_none content
    rcases now : t'.get? m with _ | _ | ⟨content', executable'⟩
    · exact Or.inr (stays m old (by rw [Tree.contentAt?, now]; rfl))
    · exact Or.inr (stays m old (by rw [Tree.contentAt?, now]; rfl))
    · exact Or.inl ⟨content', executable',
        find_eq_file_iff.mpr ⟨file.of_keeps keeps (by simp [now]), now⟩⟩
  · have there : t'.contentAt? m = some content := by
      rw [Tree.contentAt?, (find_eq_file_iff.mp leads).2]
      rfl
    exact whole m content there

theorem of_same_contents (keeps : KeepsDirectories t t')
    (same : ∀ m, t'.contentAt? m = t.contentAt? m) : AllOrNothing [] t t' := by
  refine .intro keeps (fun m content here => ?_) (fun m there gone => ?_)
  · rw [same] at here
    exact Or.inl here
  · rw [same] at gone
    exact absurd gone there

theorem of_writeAtomically {g : Target} {write : Except Failure Content}
    {result : Except Failure Unit} (ran : (Disk.writeAtomically g.path write).on t = (result, t')) :
    AllOrNothing [.of g write result] t t' := by
  cases result with
  | error f =>
    obtain ⟨keeps, same⟩ := Target.failed ran
    refine .intro keeps (fun m content here => ?_) (fun m there gone => ?_)
    · rcases same m with same | ⟨-, free⟩
      · exact Or.inl (same.contentAt? ▸ here)
      · rw [Tree.contentAt?, free] at here
        cases here
    · rcases same m with same | ⟨atSibling, -⟩
      · exact absurd (same.contentAt? ▸ gone) there
      · exact ⟨_, List.mem_singleton_self _, atSibling⟩
  | ok u =>
    obtain ⟨keeps, free, ⟨content, rfl, filled⟩, same⟩ := Target.finished ran
    refine .intro keeps (fun m content' here => ?_) (fun m there gone => ?_)
    · by_cases atPlace : m = g.place t
      · rw [atPlace, filled] at here
        exact Or.inr ⟨_, List.mem_singleton_self _, here, atPlace⟩
      · by_cases atSibling : m = g.sibling t
        · rw [atSibling, Tree.contentAt?, free] at here
          cases here
        · exact Or.inl ((same m atSibling atPlace).contentAt? ▸ here)
    · by_cases atSibling : m = g.sibling t
      · exact ⟨_, List.mem_singleton_self _, atSibling⟩
      · by_cases atPlace : m = g.place t
        · rw [atPlace, filled] at gone
          cases gone
        · exact absurd ((same m atSibling atPlace).contentAt? ▸ gone) there

theorem trans (first : AllOrNothing attempts t t') (second : AllOrNothing attempts' t' t'') :
    AllOrNothing (attempts ++ attempts') t t'' := by
  have workdir := first.keeps.workdir
  refine .intro (first.keeps.trans second.keeps) (fun m content here => ?_) (fun m there gone => ?_)
  · rcases second.whole m content here with between | ⟨a, member, written, place⟩
    · rcases first.whole m content between with old | ⟨a, member, written, place⟩
      · exact Or.inl old
      · exact Or.inr ⟨a, List.mem_append_left _ member, written, place⟩
    · rw [Target.place_eq workdir] at place
      exact Or.inr ⟨a, List.mem_append_right _ member, written, place⟩
  · by_cases between : t'.contentAt? m = none
    · obtain ⟨a, member, sibling⟩ := first.stays m there between
      exact ⟨a, List.mem_append_left _ member, sibling⟩
    · obtain ⟨a, member, sibling⟩ := second.stays m between gone
      rw [Target.sibling_eq workdir] at sibling
      exact ⟨a, List.mem_append_right _ member, sibling⟩

end AllOrNothing

/-- The tree goes from attempt to attempt, and directories may be made in between. `hands` tells what
may be handed over to be written to a target. -/
inductive AttemptRun (hands : Tree → Target → Except Failure Content → Prop) :
    Tree → List Attempt → Tree → Prop
  | nil (t : Tree) : AttemptRun hands t [] t
  | directories {t t' : Tree} {attempts : List Attempt} (q : Path)
    (rest : AttemptRun hands ((Disk.makeDirectories q).on t).2 attempts t') :
    AttemptRun hands t attempts t'
  | attempt {t between t' : Tree} {target : Target} {write : Except Failure Content}
    {result : Except Failure Unit} {attempts : List Attempt} (given : hands t target write)
    (ran : (Disk.writeAtomically target.path write).on t = (result, between))
    (rest : AttemptRun hands between attempts t') :
    AttemptRun hands t (.of target write result :: attempts) t'

namespace AttemptRun

variable {hands hands' : Tree → Target → Except Failure Content → Prop} {t between t' : Tree}
  {attempts attempts' : List Attempt}

theorem append (first : AttemptRun hands t attempts between)
    (second : AttemptRun hands between attempts' t') :
    AttemptRun hands t (attempts ++ attempts') t' := by
  induction first with
  | nil => exact second
  | directories q _ ih => exact .directories q (ih second)
  | attempt given ran _ ih => exact .attempt given ran (ih second)

theorem mono (run : AttemptRun hands t attempts t')
    (more : ∀ t target write, hands t target write → hands' t target write) :
    AttemptRun hands' t attempts t' := by
  induction run with
  | nil t => exact .nil t
  | directories q _ ih => exact .directories q ih
  | attempt given ran _ ih => exact .attempt (more _ _ _ given) ran ih

theorem allOrNothing (run : AttemptRun hands t attempts t') : AllOrNothing attempts t t' := by
  induction run with
  | nil t => exact .of_same_contents (.refl t) fun _ => rfl
  | @directories t _ _ q _ ih =>
    have made := Disk.confined_makeDirectories q t
    have same : AllOrNothing [] t ((Disk.makeDirectories q).on t).2 :=
      .of_same_contents made.keeps fun _ => (made.untouched id).contentAt?
    exact same.trans ih
  | attempt _ ran _ ih => exact (AllOrNothing.of_writeAtomically ran).trans ih

end AttemptRun

def Reaches (hands : Tree → Target → Except Failure Content → Prop) (t t' : Tree) : Prop :=
  ∃ attempts, AttemptRun hands t attempts t'

namespace Reaches

variable {hands hands' : Tree → Target → Except Failure Content → Prop} {t between t' : Tree}

theorem refl (t : Tree) : Reaches hands t t := ⟨[], .nil t⟩

theorem trans (first : Reaches hands t between) (second : Reaches hands between t') :
    Reaches hands t t' := by
  obtain ⟨attempts, run⟩ := first
  obtain ⟨attempts', run'⟩ := second
  exact ⟨_, run.append run'⟩

theorem mono (h : Reaches hands t t')
    (more : ∀ t target write, hands t target write → hands' t target write) :
    Reaches hands' t t' := by
  obtain ⟨attempts, run⟩ := h
  exact ⟨attempts, run.mono more⟩

theorem makeDirectories (q : Path) (t : Tree) :
    Reaches hands t ((Disk.makeDirectories q).on t).2 := ⟨[], .directories q (.nil _)⟩

theorem writeAtomically {target : Target} {write : Except Failure Content}
    (given : hands t target write) :
    Reaches hands t ((Disk.writeAtomically target.path write).on t).2 :=
  ⟨_, .attempt given rfl (.nil _)⟩

end Reaches

namespace Disk

variable {α : Type} {t t' : Tree} {d : Disk α} {target : Target}
  {gives : Except Failure Content → Prop}

/-- The computation leaves the tree alone, or it makes one attempt to write a file and fails where that
fails. -/
def TriesOnce (d : Disk α) (p : Path) (gives : Except Failure Content → Prop) (t : Tree) : Prop :=
  (d.on t).2 = t ∨ ∃ write, gives write ∧ (d.on t).2 = ((writeAtomically p write).on t).2 ∧
    (d.on t).1.isOk = ((writeAtomically p write).on t).1.isOk

theorem TriesOnce.keeps {holds : Tree → Prop} {p : Path} (h : d.TriesOnce p gives t) (here : holds t)
    (step : ∀ write, gives write → holds ((writeAtomically p write).on t).2) : holds (d.on t).2 := by
  rcases h with same | ⟨write, given, same, -⟩
  · rw [same]
    exact here
  · rw [same]
    exact step write given

theorem TriesOnce.failed {f : Failure} {p : Path} (h : d.TriesOnce p gives t)
    (ran : d.on t = (.error f, t')) :
    t' = t ∨ ∃ write e, gives write ∧ (writeAtomically p write).on t = (.error e, t') := by
  rw [TriesOnce, ran] at h
  rcases h with same | ⟨write, given, same, fails⟩
  · exact Or.inl same
  · rcases wrote : (writeAtomically p write).on t with ⟨e | u, after⟩
    · rw [wrote] at same
      obtain rfl : t' = after := same
      exact Or.inr ⟨write, e, given, wrote⟩
    · rw [wrote] at fails
      cases fails

end Disk

end PuzzlePrep

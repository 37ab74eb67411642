import PuzzlePrep.Proofs.Files.Attempt

namespace PuzzlePrep

open PuzzlePrep.Path PuzzlePrep.Tree

/-- What a writer does with the file that it gets: what it has written in the end, and why it stopped
if it failed. -/
structure Writing where
  content : Content
  failure? : Option Failure

def Writing.result (w : Writing) : Except Failure Content :=
  match w.failure? with
  | some f => .error f
  | none => .ok w.content

def OnWay (p : Path) (t : Tree) (m : Location) : Prop :=
  ∃ parent, p.parent? = some parent ∧ parent.Passes t.workdir m

def Spared (p : Path) (t t' : Tree) (m : Location) : Prop :=
  t'.get? m = t.get? m ∨ OnWay p t m ∧ t.get? m = none ∧ t'.get? m = some .directory

/-- What was made on the way lies strictly above the place of a path that goes up only from directories
that are there. -/
theorem Spared.below {p : Path} {t t' : Tree} {m : Location} (h : Spared p t t' m)
    (sound : t.Sound) (grounded : t.Grounded p) (below : t.placeOf p <+: m) : t'.get? m = t.get? m := by
  rcases h with same | ⟨⟨parent, above, passes⟩, free, -⟩
  · exact same
  · obtain ⟨before, other⟩ := grounded.before_of_passes sound above passes free
    exact absurd (before.eq_of_length_le below.length_le) other

/-- The path has got the content: it is found there, the sibling is gone, and elsewhere nothing has
changed but for new directories on the way. -/
structure Placed (p : Path) (content : Content) (t t' : Tree) : Prop where
  target : ∃ executable, t'.find p = .ok (t.placeOf p, .file content executable)
  sibling : t'.has p.temporary = false ∧ t'.get? (t.placeOf p.temporary) = none
  other : ∀ m, m ≠ t.placeOf p → m ≠ t.placeOf p.temporary → Spared p t t' m

/-- Nothing has come of the write. What the path leads to stays, no file is new or has another content,
and nothing has changed but for new directories on the way and for a sibling file that may be gone. In a
sound tree a path that goes up only from directories that are there leads to nothing if it did so before,
and at its place and below nothing has changed but the sibling. -/
structure LeftAlone (p : Path) (t t' : Tree) : Prop where
  target : ∀ r, t.find p = .ok r → t'.find p = .ok r
  file : ∀ m content executable, t'.get? m = some (.file content executable) →
    t.get? m = some (.file content executable)
  other : ∀ m, Spared p t t' m ∨ m = t.placeOf p.temporary ∧
    (∃ content executable, t.get? m = some (.file content executable)) ∧ t'.get? m = none
  grounded : t.Sound → t.Grounded p → (t.has p = false → t'.has p = false) ∧
    ∀ m, t.placeOf p <+: m → m ≠ t.placeOf p.temporary → t'.get? m = t.get? m

namespace Disk

variable {t t' : Tree} {p : Path} {w : Writing}

def replaceWith (p : Path) (w : Writing) : Disk Unit := do
  let l ← createFile p.temporary
  fill l w.content
  match w.failure? with
  | some f => abandon p.temporary f
  | none => tryCatch (rename p.temporary p) (abandon p.temporary)

def writeWith (p : Path) (w : Writing) : Disk Unit := do
  if let some parent := p.parent? then makeDirectories parent
  replaceWith p w

section Same

theorem replaceWith_on (p : Path) (w : Writing) (t : Tree) :
    (replaceWith p w).on t = (replace p w.result).on t := by
  obtain ⟨content, _ | f⟩ := w
  · rfl
  · rw [replaceWith, replace, on_bind, on_bind]
    rcases created : (createFile p.temporary).on t with ⟨g | origin, between⟩
    · rfl
    · obtain ⟨sibling, rfl⟩ := createFile_on_ok.mp created
      have found (content : Content) := find_put_file sibling content (t.executableAt origin)
      have empty := (find_eq_file_iff.mp (found .empty)).2
      dsimp only [Writing.result]
      rw [on_bind, fill_on _ _ _ empty, put_put]
      dsimp only
      rw [abandon_on (found content), abandon_on (found .empty), put_drop, put_drop]

/-- What a writer has written before it fails makes no difference. -/
theorem writeWith_on (p : Path) (w : Writing) (t : Tree) :
    (writeWith p w).on t = (writeAtomically p w.result).on t := by
  rw [writeAtomically_eq, writeWith]
  cases p.parent? with
  | none => exact replaceWith_on p w t
  | some parent =>
    dsimp only
    rw [on_bind, on_bind]
    rcases (makeDirectories parent).on t with ⟨f | u, between⟩
    · rfl
    · exact replaceWith_on p w between

end Same

section Ends

variable {write : Except Failure Content}

theorem spared_of_confined (grown : Confined (OnWay p t) (fun _ => False) t t') (m : Location) :
    Spared p t t' m := by
  rcases grown.other m id with same | ⟨free, made⟩
  · exact Or.inl same
  · rcases grown.made m made with old | onWay
    · rw [free] at old
      cases old
    · exact Or.inr ⟨onWay, free, made⟩

theorem writeAtomically_begins (p : Path) (write : Except Failure Content) (t : Tree) :
    ∃ between, Confined (OnWay p t) (fun _ => False) t between ∧
      ((∃ f, (writeAtomically p write).on t = (.error f, between)) ∨
        (writeAtomically p write).on t = (replace p write).on between) := by
  rw [writeAtomically_eq]
  cases above : p.parent? with
  | none => exact ⟨t, .refl _ _ t, Or.inr rfl⟩
  | some parent =>
    have grown : Confined (OnWay p t) (fun _ => False) t ((makeDirectories parent).on t).2 :=
      (confined_makeDirectories parent t).mono (fun m _ passes => ⟨parent, above, passes⟩)
        fun _ => id
    dsimp only
    rw [on_bind]
    rcases made : (makeDirectories parent).on t with ⟨f | u, between⟩
    · rw [made] at grown
      exact ⟨between, grown, Or.inl ⟨f, rfl⟩⟩
    · rw [made] at grown
      exact ⟨between, grown, Or.inr rfl⟩

theorem placed_of_writeAtomically (ran : (writeAtomically p write).on t = (.ok (), t')) :
    ∃ content, write = .ok content ∧ Placed p content t t' := by
  obtain ⟨between, grown, failed | rest⟩ := writeAtomically_begins p write t
  · obtain ⟨f, failed⟩ := failed
    rw [ran] at failed
    cases failed
  · rw [rest] at ran
    obtain ⟨content, origin, goal, given, sibling, target, result⟩ := replaced_of_replace ran
    have grows : Grows t between := ⟨grown.keeps.workdir, fun l => grown.other l id⟩
    have written := written_of_replaced grows sibling target result
    have atOrigin : origin = t.placeOf p.temporary :=
      sibling.eq_placeOf.trans (placeOf_congr grown.keeps.workdir _)
    have atGoal : goal = t.placeOf p := target.eq_placeOf.trans (placeOf_congr grown.keeps.workdir _)
    subst atOrigin atGoal
    have gone := written.gone (placeOf_temporary_ne t p)
    refine ⟨content, given, written.find, ⟨has_of_free written.sibling gone, gone⟩, ?_⟩
    intro m other other'
    rw [Spared, result.other m other' other]
    exact spared_of_confined grown m

theorem spared_of_failed {f : Failure} (ran : (writeAtomically p write).on t = (.error f, t')) :
    KeepsDirectories t t' ∧ (t.Sound → t'.Sound) ∧ ∀ m, Spared p t t' m ∨
      m = t.placeOf p.temporary ∧
        (∃ content executable, t.get? m = some (.file content executable)) ∧ t'.get? m = none := by
  obtain ⟨between, grown, failed | rest⟩ := writeAtomically_begins p write t
  · obtain ⟨g, failed⟩ := failed
    rw [ran] at failed
    cases failed
    exact ⟨grown.keeps, grown.sound, fun m => Or.inl (spared_of_confined grown m)⟩
  · rw [rest] at ran
    rcases (replace_on_error ran).2 with rfl | ⟨origin, e, sibling, rfl⟩
    · exact ⟨grown.keeps, grown.sound, fun m => Or.inl (spared_of_confined grown m)⟩
    · have dropped := confined_put_drop sibling e
      have atOrigin : origin = t.placeOf p.temporary :=
        sibling.eq_placeOf.trans (placeOf_congr grown.keeps.workdir _)
      refine ⟨grown.keeps.trans dropped.keeps, dropped.sound ∘ grown.sound, fun m => ?_⟩
      by_cases here : m = origin
      · subst here
        rcases grown.other m id with same | ⟨-, made⟩
        · have gone : ((between.put m e).drop m).get? m = none := by
            rw [get?_drop _ sibling.ne_nil, if_pos rfl]
          cases old : t.get? m with
          | none => exact Or.inl (Or.inl (gone.trans old.symm))
          | some entry =>
            cases entry with
            | directory => exact absurd (same.trans old) sibling.2
            | file content executable => exact Or.inr ⟨atOrigin, ⟨content, executable, rfl⟩, gone⟩
        · exact absurd made sibling.2
      · left
        rw [Spared, get?_put_drop sibling.ne_nil here]
        exact spared_of_confined grown m

theorem leftAlone_of_writeAtomically {f : Failure}
    (ran : (writeAtomically p write).on t = (.error f, t')) : LeftAlone p t t' := by
  obtain ⟨keeps, sound', other⟩ := spared_of_failed ran
  have target : Spared p t t' (t.placeOf p) :=
    (other _).resolve_right fun gone => placeOf_temporary_ne t p gone.1.symm
  have below (sound : t.Sound) (grounded : t.Grounded p) (m : Location)
      (within : t.placeOf p <+: m) (apart : m ≠ t.placeOf p.temporary) : t'.get? m = t.get? m :=
    ((other m).resolve_right fun gone => apart gone.1).below sound grounded within
  refine ⟨fun r => find_of_keeps keeps (target.imp id fun made => made.2.1),
    fun m content executable file => ?_, other, fun sound grounded => ⟨fun absent => ?_,
      below sound grounded⟩⟩
  · rcases other m with (same | ⟨-, -, made⟩) | ⟨-, -, gone⟩
    · exact same ▸ file
    · rw [made] at file
      cases file
    · rw [gone] at file
      cases file
  · rw [Bool.eq_false_iff] at absent ⊢
    have same := below sound grounded _ List.prefix_rfl (placeOf_temporary_ne t p).symm
    exact fun has => absent (grounded.has sound (sound' sound) keeps same has)

end Ends

/-- Either the write succeeds and the path has got what the writer has written, or it fails and nothing
has come of it. -/
theorem writeWith_all_or_nothing {outcome : Except Failure Unit}
    (ran : (writeWith p w).on t = (outcome, t')) :
    (writeAtomically p w.result).on t = (outcome, t') ∧
    (outcome = .ok () → w.failure? = none ∧ Placed p w.content t t') ∧
    ∀ f, outcome = .error f → LeftAlone p t t' := by
  rw [writeWith_on] at ran
  refine ⟨ran, ?_, ?_⟩
  · rintro rfl
    obtain ⟨content, given, placed⟩ := placed_of_writeAtomically ran
    obtain ⟨written, _ | g⟩ := w
    · cases given
      exact ⟨rfl, placed⟩
    · cases given
  · rintro f rfl
    exact leftAlone_of_writeAtomically ran

section Runs

def crowded : Tree where
  workdir := ["work"]
  entries := [(["work"], .directory), (["work", "raw"], .directory),
    (["work", "raw", "keep"], .file (.ofText "x") false),
    (["work", "raw.tmp"], .file (.ofText "left behind") false)]

/-- No file takes the place of a directory. -/
theorem writeWith_all_or_nothing_of_directory : ∃ f t',
    (writeWith ⟨"./raw/."⟩ ⟨.ofText "new", none⟩).on crowded = (.error f, t') ∧
    LeftAlone ⟨"./raw/."⟩ crowded t' ∧ crowded.Sound ∧ crowded.Grounded ⟨"./raw/."⟩ := by
  have failed : ((writeWith ⟨"./raw/."⟩ ⟨.ofText "new", none⟩).on crowded).1.isOk = false := by
    decide +kernel
  rcases ran : (writeWith ⟨"./raw/."⟩ ⟨.ofText "new", none⟩).on crowded with ⟨f | u, t'⟩
  · exact ⟨f, t', rfl, (writeWith_all_or_nothing ran).2.2 f rfl, by decide, [], _, _, rfl, rfl,
      by decide⟩
  · rw [ran] at failed
    cases failed

/-- A path that goes up from a directory that its own parent makes: nothing was there, and after the
write has failed there is a directory. -/
theorem writeWith_makes_target : ∃ t f t', t.Sound ∧ t.entries.map Prod.fst = [["work"]] ∧
    (writeWith ⟨"d/../d"⟩ ⟨.ofText "x", none⟩).on t = (.error f, t') ∧
    t.has ⟨"d/../d"⟩ = false ∧ t'.hasDirectory ⟨"d/../d"⟩ = true := by
  have failed : ((writeWith ⟨"d/../d"⟩ ⟨.ofText "x", none⟩).on
      ⟨["work"], [(["work"], .directory)]⟩).1.isOk = false := by decide +kernel
  have made : ((writeWith ⟨"d/../d"⟩ ⟨.ofText "x", none⟩).on
      ⟨["work"], [(["work"], .directory)]⟩).2.hasDirectory ⟨"d/../d"⟩ = true := by decide +kernel
  rcases ran : (writeWith ⟨"d/../d"⟩ ⟨.ofText "x", none⟩).on
      ⟨["work"], [(["work"], .directory)]⟩ with ⟨f | u, t'⟩
  · rw [ran] at made
    exact ⟨_, f, t', by decide, rfl, ran, by decide +kernel, made⟩
  · rw [ran] at failed
    cases failed

end Runs

end Disk

end PuzzlePrep

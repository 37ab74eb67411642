import PuzzlePrep.Proofs.Files.Spot

namespace PuzzlePrep

open PuzzlePrep.Path

namespace Tree

/-- New directories come about at `dirs` only, and apart from them nothing changes but at `files`. -/
structure Confined (dirs files : Location → Prop) (t t' : Tree) : Prop where
  keeps : KeepsDirectories t t'
  sound : t.Sound → t'.Sound
  made : ∀ m, t'.get? m = some .directory → t.get? m = some .directory ∨ dirs m
  other : ∀ m, ¬ files m → t'.get? m = t.get? m ∨ t.get? m = none ∧ t'.get? m = some .directory

variable {t t' t'' : Tree} {dirs dirs' files files' : Location → Prop} {m : Location}

theorem Confined.refl (dirs files : Location → Prop) (t : Tree) : Confined dirs files t t :=
  ⟨.refl t, id, fun _ => Or.inl, fun _ _ => Or.inl rfl⟩

theorem Confined.trans (first : Confined dirs files t t') (second : Confined dirs files t' t'') :
    Confined dirs files t t'' := by
  refine ⟨first.keeps.trans second.keeps, second.sound ∘ first.sound, fun m directory => ?_,
    fun m outside => ?_⟩
  · rcases second.made m directory with there | new
    · exact first.made m there
    · exact Or.inr new
  · rcases first.other m outside with same | ⟨free, made⟩
    · rw [← same]
      exact second.other m outside
    · exact Or.inr ⟨free, second.keeps.directory m made⟩

theorem Confined.mono (h : Confined dirs files t t')
    (more : ∀ m, t.get? m ≠ some .directory → dirs m → dirs' m) (moreFiles : ∀ m, files m → files' m) :
    Confined dirs' files' t t' := by
  refine ⟨h.keeps, h.sound, fun m directory => ?_, fun m outside => h.other m ?_⟩
  · by_cases old : t.get? m = some .directory
    · exact Or.inl old
    · exact (h.made m directory).imp id (more m old)
  · exact fun inside => outside (moreFiles m inside)

theorem Confined.same (h : Confined dirs files t t') (outside : ¬ files m) (away : ¬ dirs m) :
    t'.get? m = t.get? m := by
  rcases h.other m outside with same | ⟨free, made⟩
  · exact same
  · rcases h.made m made with old | new
    · rw [made, old]
    · exact absurd new away

theorem Confined.file_iff (h : Confined dirs files t t') (outside : ¬ files m) (content : Content)
    (executable : Bool) :
    t'.get? m = some (.file content executable) ↔ t.get? m = some (.file content executable) := by
  rcases h.other m outside with same | ⟨free, made⟩
  · rw [same]
  · rw [free, made]
    simp

theorem passes_of_spot {q : Path} {here : Location} {name : String} {slash : Bool}
    (leads : t.spot q = .ok (.named here name slash)) :
    q.Passes t.workdir (here ++ [name]) ∧ (t.Sound → t.get? here = some .directory) := by
  refine ⟨⟨q.parts, List.prefix_rfl, location_of_spot leads⟩, fun sound => ?_⟩
  obtain ⟨-, -, parted⟩ := spot_eq_ok_iff.mp leads
  rcases spotOf_eq_ok_iff.mp parted with ⟨-, there, -, same⟩ |
    ⟨front, last, there, -, -, walked, -, same⟩
  · cases same
  · cases same
    exact sound.directory_of_walk (sound.directory_start q) walked

theorem Sound.put (sound : t.Sound) {q : Path} {here : Location} {name : String} {slash : Bool}
    (leads : t.spot q = .ok (.named here name slash)) {e : Entry}
    (keeps : KeepsDirectories t (t.put (here ++ [name]) e)) : (t.put (here ++ [name]) e).Sound := by
  refine sound.of_keeps keeps fun there other free new => ?_
  by_cases same : there ++ [other] = here ++ [name]
  · obtain ⟨rfl, -⟩ := List.append_inj' same rfl
    exact keeps.directory _ ((passes_of_spot leads).2 sound)
  · rw [get?_put _ _ (by simp), if_neg same] at new
    exact absurd free new

end Tree

namespace Disk

open PuzzlePrep.Tree

variable {t t' : Tree} {q : Path}

theorem confined_makeDirectory (q : Path) (t : Tree) :
    Confined (q.Passes t.workdir) (fun _ => False) t ((makeDirectory q).on t).2 := by
  rcases ran : (makeDirectory q).on t with ⟨f | u, between⟩
  · rw [makeDirectory_on_error ran]
    exact .refl _ _ t
  · obtain ⟨here, name, slash, leads, free, rfl⟩ := makeDirectory_on_ok.mp ran
    have grows := grows_put free
    refine ⟨grows.keeps, fun sound => sound.put leads grows.keeps, fun m directory => ?_,
      fun m _ => grows.get? m⟩
    by_cases here' : m = here ++ [name]
    · subst here'
      exact Or.inr (passes_of_spot leads).1
    · rw [get?_put _ _ (by simp), if_neg here'] at directory
      exact Or.inl directory

theorem confined_ensureDirectory (q : Path) (t : Tree) :
    Confined (q.Passes t.workdir) (fun _ => False) t ((ensureDirectory q).on t).2 := by
  rcases ran : (ensureDirectory q).on t with ⟨f | u, between⟩
  · rw [(ensureDirectory_on_error ran).1]
    exact .refl _ _ t
  · rcases ensureDirectory_on_ok.mp ran with made | ⟨-, -, rfl⟩
    · have made' := confined_makeDirectory q t
      rw [made] at made'
      exact made'
    · exact .refl _ _ between

theorem confined_makeDirectoriesWithin (fuel : Nat) (q : Path) (t : Tree) :
    Confined (q.Passes t.workdir) (fun _ => False) t ((makeDirectoriesWithin fuel q).on t).2 := by
  induction fuel generalizing q t with
  | zero => exact .refl _ _ t
  | succ fuel ih =>
    rw [makeDirectoriesWithin]
    split
    · exact .refl _ _ t
    · rw [on_tryCatch]
      have here := confined_ensureDirectory q t
      rcases ran : (ensureDirectory q).on t with ⟨f | u, between⟩
      · obtain ⟨rfl, -⟩ := ensureDirectory_on_error ran
        dsimp only
        split
        · split
          · exact .refl _ _ between
          · rename_i parent above
            have first := (ih parent between).mono (fun _ _ => Passes.of_parent above) fun _ => id
            rw [on_bind]
            rcases ran : (makeDirectoriesWithin fuel parent).on between with ⟨g | u, after⟩
            · rw [ran] at first
              exact first
            · rw [ran] at first
              have second := confined_ensureDirectory q after
              rw [first.keeps.workdir] at second
              exact first.trans second
        · exact .refl _ _ between
      · rw [ran] at here
        exact here

theorem confined_makeDirectories (q : Path) (t : Tree) :
    Confined (q.Passes t.workdir) (fun _ => False) t ((makeDirectories q).on t).2 :=
  confined_makeDirectoriesWithin _ q t

section Failing

variable {f : Failure}

theorem createFile_on_error (h : (createFile q).on t = (.error f, t')) : t' = t := by
  rw [createFile, on_bind, Disk.spot, on_inspect] at h
  cases leads : t.spot q with
  | error g =>
    rw [leads] at h
    cases h
    rfl
  | ok spot =>
    rw [leads] at h
    cases spot with
    | directory m =>
      cases h
      rfl
    | named here name slash =>
      simp only [on_bind, on_get] at h
      split at h
      · cases h
        rfl
      · cases slash <;> cases h
        rfl
      · cases slash <;> cases h
        rfl

theorem rename_on_error {source target : Path} (h : (rename source target).on t = (.error f, t')) :
    t' = t := by
  rw [rename, on_bind, Disk.spot, on_inspect] at h
  cases leads : t.spot source with
  | error g =>
    rw [leads] at h
    cases h
    rfl
  | ok origin =>
    rw [leads] at h
    simp only [on_bind, Disk.spot, on_inspect] at h
    cases leads' : t.spot target with
    | error g =>
      rw [leads'] at h
      cases h
      rfl
    | ok goal =>
      rw [leads'] at h
      dsimp only at h
      split at h
      · simp only [on_bind, on_get] at h
        split at h
        · cases h
          rfl
        · split at h
          · cases h
            rfl
          · simp only [on_bind, on_get] at h
            split at h <;> cases h
            rfl
      · cases h
        rfl

theorem removeFile_on_of_find {m : Location} {content : Content} {executable : Bool}
    (found : t.find q = .ok (m, .file content executable)) :
    (removeFile q).on t = (.ok (), t.drop m) := by
  rw [removeFile, on_bind, on_inspect, found]
  rfl

theorem abandon_on {α : Type} {m : Location} {content : Content} {executable : Bool}
    (found : t.find q = .ok (m, .file content executable)) (f : Failure) :
    (abandon q f : Disk α).on t = (.error f, t.drop m) := by
  rw [abandon, on_bind, on_tryCatch, removeFile_on_of_find found]
  rfl

theorem hasFile_of_put_drop {m : Location} {e : Entry} (sibling : t.FileAt q m)
    (keeps : KeepsDirectories t ((t.put m e).drop m)) : ((t.put m e).drop m).hasFile q = false := by
  obtain ⟨⟨here, name, leads, rfl⟩, -⟩ := sibling
  have gone : ((t.put (here ++ [name]) e).drop (here ++ [name])).get? (here ++ [name]) = none := by
    rw [get?_drop _ (by simp), if_pos rfl]
  rw [hasFile, find, spot_of_keeps keeps leads, ok_bind]
  dsimp only
  rw [gone]
  rfl

theorem get?_put_drop {m : Location} {e : Entry} (named : m ≠ []) {n : Location} (other : n ≠ m) :
    ((t.put m e).drop m).get? n = t.get? n := by
  rw [get?_drop _ named, if_neg other, get?_put _ _ named, if_neg other]

theorem keeps_put_drop {m : Location} {e : Entry} (named : m ≠ [])
    (file : t.get? m ≠ some .directory) : KeepsDirectories t ((t.put m e).drop m) := by
  refine ⟨rfl, fun n directory => ?_⟩
  rw [get?_put_drop named]
  · exact directory
  · rintro rfl
    exact file directory

theorem hasFile_of_createFile_error (h : (createFile q).on t = (.error f, t')) :
    t.hasFile q = false := by
  rw [hasFile]
  split
  · -- A file that is there could have been opened.
    rename_i m content executable found
    have opened := createFile_on_ok.mpr ⟨(find_eq_file_iff.mp found).1, rfl⟩
    rw [h] at opened
    cases opened
  · rfl

/-- A failed write has no sibling file, and nothing has changed but that one may be gone. -/
theorem replace_on_error {write : Except Failure Content}
    (h : (replace q write).on t = (.error f, t')) : t'.hasFile q.temporary = false ∧
      (t' = t ∨ ∃ origin e, t.FileAt q.temporary origin ∧ t' = (t.put origin e).drop origin) := by
  rw [replace, on_bind] at h
  rcases created : (createFile q.temporary).on t with ⟨g | origin, between⟩
  · have same := createFile_on_error created
    subst same
    rw [created] at h
    cases h
    exact ⟨hasFile_of_createFile_error created, Or.inl rfl⟩
  · obtain ⟨sibling, rfl⟩ := createFile_on_ok.mp created
    rw [created] at h
    have found (content : Content) := find_put_file sibling content (t.executableAt origin)
    have result (content : Content) (dropped :
        t' = (t.put origin (.file content (t.executableAt origin))).drop origin) :
        t'.hasFile q.temporary = false ∧
          (t' = t ∨ ∃ origin e, t.FileAt q.temporary origin ∧ t' = (t.put origin e).drop origin) := by
      subst dropped
      exact ⟨hasFile_of_put_drop sibling (keeps_put_drop sibling.ne_nil sibling.2),
        Or.inr ⟨origin, _, sibling, rfl⟩⟩
    cases write with
    | error g =>
      dsimp only at h
      rw [abandon_on (found .empty)] at h
      cases h
      exact result _ rfl
    | ok content =>
      have empty := (find_eq_file_iff.mp (found .empty)).2
      simp only [on_bind, fill_on _ _ _ empty, put_put, on_tryCatch] at h
      rcases moved : (rename q.temporary q).on
          (t.put origin (.file content (t.executableAt origin))) with ⟨g | u, after⟩
      · rw [moved] at h
        have same := rename_on_error moved
        subst same
        dsimp only at h
        rw [abandon_on (found content)] at h
        cases h
        exact result _ rfl
      · rw [moved] at h
        cases h

end Failing

section Write

variable {a b : Path} {origin goal m : Location}

theorem confined_put_drop (sibling : t.FileAt a m) (e : Entry) :
    Confined (fun _ => False) (· = m) t ((t.put m e).drop m) := by
  have keeps := keeps_put_drop (e := e) sibling.ne_nil sibling.2
  have gone : ((t.put m e).drop m).get? m = none := by
    rw [get?_drop _ sibling.ne_nil, if_pos rfl]
  refine ⟨keeps, fun sound => sound.of_keeps keeps fun here name free new => ?_,
    fun n directory => ?_, fun n other => Or.inl (get?_put_drop sibling.ne_nil other)⟩
  · by_cases same : here ++ [name] = m
    · rw [same, gone] at new
      exact absurd rfl new
    · rw [get?_put_drop sibling.ne_nil same] at new
      exact absurd free new
  · by_cases same : n = m
    · rw [same, gone] at directory
      cases directory
    · rw [get?_put_drop sibling.ne_nil same] at directory
      exact Or.inl directory

theorem confined_of_replaced {content : Content} (sibling : t.FileAt a origin)
    (target : t.FileAt b goal) (result : Replaced t t' origin goal content) :
    Confined (fun _ => False) (fun m => m = origin ∨ m = goal) t t' := by
  have keeps := result.keeps sibling.2 target.2
  obtain ⟨executable, filled⟩ := result.filled
  have gone (apart : origin ≠ goal) := result.gone apart
  refine ⟨keeps, fun sound => sound.of_keeps keeps fun here name free new => ?_,
    fun n directory => ?_, fun n outside => ?_⟩
  · by_cases atGoal : here ++ [name] = goal
    · obtain ⟨⟨here', name', leads, rfl⟩, -⟩ := target
      obtain ⟨rfl, -⟩ := List.append_inj' atGoal rfl
      exact keeps.directory _ ((passes_of_spot leads).2 sound)
    · by_cases atOrigin : here ++ [name] = origin
      · rw [atOrigin, gone (atOrigin ▸ atGoal)] at new
        exact absurd rfl new
      · rw [result.other _ atOrigin atGoal] at new
        exact absurd free new
  · by_cases atGoal : n = goal
    · rw [atGoal, filled] at directory
      cases directory
    · by_cases atOrigin : n = origin
      · rw [atOrigin, gone (atOrigin ▸ atGoal)] at directory
        cases directory
      · rw [result.other n atOrigin atGoal] at directory
        exact Or.inl directory
  · rw [not_or] at outside
    exact Or.inl (result.other n outside.1 outside.2)

theorem writeAtomically_file (l : Layout) (p : Partition) (s : Split)
    (write : Except Failure Content) :
    writeAtomically (l.file p s) write = (do
      makeDirectories (l.directory p)
      replace (l.file p s) write) := by
  rw [writeAtomically_eq, parent?_file]

/-- Writing the file of a split changes the file only if it succeeds. -/
theorem confined_writeAtomically (l : Layout) (p : Partition) (s : Split)
    (write : Except Failure Content) (t : Tree) :
    Confined ((l.directory p).Passes t.workdir)
      (fun m => m = t.inside l p (s.fileName ++ ".tmp") ∨
        ((writeAtomically (l.file p s) write).on t).1.isOk = true ∧ m = t.inside l p s.fileName)
      t ((writeAtomically (l.file p s) write).on t).2 := by
  rw [writeAtomically_file, on_bind]
  have first := confined_makeDirectories (l.directory p) t
  rcases made : (makeDirectories (l.directory p)).on t with ⟨f | u, between⟩
  · rw [made] at first
    exact first.mono (fun _ _ => id) fun _ => False.elim
  · rw [made] at first
    have place (name : String) : between.inside l p name = t.inside l p name :=
      inside_congr first.keeps.workdir l p name
    dsimp only
    rcases ran : (replace (l.file p s) write).on between with ⟨f | u, after⟩
    · refine (first.mono (fun _ _ => id) fun _ => False.elim).trans ?_
      rcases (replace_on_error ran).2 with rfl | ⟨origin, e, sibling, rfl⟩
      · exact .refl _ _ after
      · refine (confined_put_drop sibling e).mono (fun _ _ => False.elim) ?_
        rintro m rfl
        rw [temporary_file] at sibling
        rw [← place]
        exact Or.inl (fileAt_eq_inside s.plainName_temporary sibling)
    · refine (first.mono (fun _ _ => id) fun _ => False.elim).trans ?_
      obtain ⟨content, origin, goal, -, sibling, target, result⟩ := replaced_of_replace ran
      refine (confined_of_replaced sibling target result).mono (fun _ _ => False.elim) ?_
      rw [temporary_file] at sibling
      rw [← place, ← place]
      rintro m (rfl | rfl)
      · exact Or.inl (fileAt_eq_inside s.plainName_temporary sibling)
      · exact Or.inr ⟨rfl, fileAt_eq_inside s.plainName target⟩

end Write

end Disk

end PuzzlePrep

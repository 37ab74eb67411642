import PuzzlePrep.Proofs.Files.Disk

namespace PuzzlePrep

namespace Tree

structure Grows (t t' : Tree) : Prop where
  workdir : t'.workdir = t.workdir
  get? : ∀ l, t'.get? l = t.get? l ∨ t.get? l = none ∧ t'.get? l = some .directory

variable {t t' t'' : Tree} {p : Path}

theorem Grows.refl (t : Tree) : Grows t t := ⟨rfl, fun _ => Or.inl rfl⟩

theorem Grows.trans (first : Grows t t') (second : Grows t' t'') : Grows t t'' := by
  refine ⟨second.workdir.trans first.workdir, fun l => ?_⟩
  rcases first.get? l with same | ⟨free, made⟩
  · rw [← same]
    exact second.get? l
  · rcases second.get? l with same' | ⟨free', -⟩
    · exact Or.inr ⟨free, same'.trans made⟩
    · rw [made] at free'
      cases free'

theorem Grows.keeps (grows : Grows t t') : KeepsDirectories t t' := by
  refine ⟨grows.workdir, fun l directory => ?_⟩
  rcases grows.get? l with same | ⟨free, -⟩
  · rw [same, directory]
  · rw [directory] at free
    cases free

theorem hasDirectory_of_keeps (keeps : KeepsDirectories t t') (h : t.hasDirectory p = true) :
    t'.hasDirectory p = true := by
  cases leads : t.spot p with
  | error f =>
    rw [hasDirectory, find, leads] at h
    cases h
  | ok spot =>
    have leads' := spot_of_keeps keeps leads
    cases spot with
    | directory l =>
      rw [hasDirectory, find, leads']
      rfl
    | named here name slash =>
      rw [hasDirectory_iff leads] at h
      exact (hasDirectory_iff leads').mpr (keeps.directory _ h)

theorem grows_put {l : Location} (free : t.get? l = none) : Grows t (t.put l .directory) := by
  have named : l ≠ [] := by
    rintro rfl
    cases free
  refine ⟨rfl, fun m => ?_⟩
  rw [get?_put t _ named]
  split
  · rename_i here
    rw [here]
    exact Or.inr ⟨free, rfl⟩
  · exact Or.inl rfl

end Tree

namespace Disk

open PuzzlePrep.Tree

variable {t t' : Tree} {p : Path} {fuel : Nat}

theorem hasDirectory_of_makeDirectory (h : (makeDirectory p).on t = (.ok (), t')) :
    Grows t t' ∧ t'.hasDirectory p = true := by
  obtain ⟨here, name, slash, leads, free, rfl⟩ := makeDirectory_on_ok.mp h
  have grows := grows_put free
  refine ⟨grows, (hasDirectory_iff (spot_of_keeps grows.keeps leads)).mpr ?_⟩
  rw [get?_put t _ (by simp), if_pos rfl]

theorem grows_ensureDirectory (h : (ensureDirectory p).on t = (.ok (), t')) :
    Grows t t' ∧ t'.hasDirectory p = true := by
  rcases ensureDirectory_on_ok.mp h with made | ⟨-, directory, rfl⟩
  · exact hasDirectory_of_makeDirectory made
  · exact ⟨.refl t', directory⟩

theorem ensureDirectory_of_hasDirectory (directory : t.hasDirectory p = true) :
    (ensureDirectory p).on t = (.ok (), t) := by
  rcases ran : (makeDirectory p).on t with ⟨f | u, between⟩
  · have same := makeDirectory_on_error ran
    subst same
    exact ensureDirectory_on_ok.mpr (Or.inr ⟨⟨f, ran⟩, directory, rfl⟩)
  · obtain ⟨here, name, slash, leads, free, -⟩ := makeDirectory_on_ok.mp ran
    rw [hasDirectory_iff leads, free] at directory
    cases directory

theorem ensureDirectory_on_error {f : Failure} (h : (ensureDirectory p).on t = (.error f, t')) :
    t' = t ∧ (makeDirectory p).on t = (.error f, t) := by
  rw [ensureDirectory, on_tryCatch] at h
  rcases ran : (makeDirectory p).on t with ⟨g | u, between⟩
  · have same := makeDirectory_on_error ran
    subst same
    rw [ran] at h
    simp only [on_bind, on_get] at h
    split at h
    · cases h
    · cases h
      exact ⟨rfl, rfl⟩
  · rw [ran] at h
    cases h

theorem makeDirectoriesWithin_on_ok (named : p.text ≠ "")
    (h : (makeDirectoriesWithin (fuel + 1) p).on t = (.ok (), t')) :
    (ensureDirectory p).on t = (.ok (), t') ∨
      (makeDirectory p).on t = (.error (.io .missing), t) ∧ ∃ parent between,
        (makeDirectoriesWithin fuel parent).on t = (.ok (), between) ∧
        (ensureDirectory p).on between = (.ok (), t') := by
  rw [makeDirectoriesWithin, if_neg named, on_tryCatch] at h
  rcases ran : (ensureDirectory p).on t with ⟨f | u, between⟩
  · obtain ⟨rfl, failed⟩ := ensureDirectory_on_error ran
    rw [ran] at h
    dsimp only at h
    split at h
    · rename_i missing
      subst missing
      split at h
      · cases h
      · rename_i parent _
        obtain ⟨_, between', above, here⟩ := bind_on_ok.mp h
        exact Or.inr ⟨failed, parent, between', above, here⟩
    · cases h
  · rw [ran] at h
    exact Or.inl h

theorem grows_makeDirectoriesWithin (h : (makeDirectoriesWithin fuel p).on t = (.ok (), t')) :
    Grows t t' := by
  induction fuel generalizing p t t' with
  | zero =>
    cases h
    exact .refl t
  | succ fuel ih =>
    by_cases named : p.text = ""
    · rw [makeDirectoriesWithin, if_pos named] at h
      cases h
      exact .refl t
    · rcases makeDirectoriesWithin_on_ok named h with done | ⟨-, parent, between, above, here⟩
      · exact (grows_ensureDirectory done).1
      · exact (ih above).trans (grows_ensureDirectory here).1

theorem grows_makeDirectories (h : (makeDirectories p).on t = (.ok (), t')) : Grows t t' :=
  grows_makeDirectoriesWithin h

theorem makeDirectories_of_empty (empty : p.text = "") (t : Tree) :
    (makeDirectories p).on t = (.ok (), t) := by
  rw [makeDirectories, makeDirectoriesWithin, if_pos empty]
  rfl

theorem makeDirectories_of_hasDirectory (directory : t.hasDirectory p = true) :
    (makeDirectories p).on t = (.ok (), t) := by
  rw [makeDirectories, makeDirectoriesWithin]
  split
  · rfl
  · rw [on_tryCatch, ensureDirectory_of_hasDirectory directory]

theorem hasDirectory_of_makeDirectories (named : p.text ≠ "")
    (h : (makeDirectories p).on t = (.ok (), t')) : t'.hasDirectory p = true := by
  rcases makeDirectoriesWithin_on_ok named h with done | ⟨-, parent, between, -, here⟩
  · exact (grows_ensureDirectory done).2
  · exact (grows_ensureDirectory here).2

/-- What was made once needs not be made again, as long as directories stay. -/
theorem makeDirectories_again {t'' : Tree} (h : (makeDirectories p).on t = (.ok (), t'))
    (keeps : KeepsDirectories t' t'') : (makeDirectories p).on t'' = (.ok (), t'') := by
  by_cases named : p.text = ""
  · exact makeDirectories_of_empty named t''
  · exact makeDirectories_of_hasDirectory
      (hasDirectory_of_keeps keeps (hasDirectory_of_makeDirectories named h))

theorem get?_ensureDirectory {m : Location}
    (elsewhere : ∀ here name slash, t.spot p = .ok (.named here name slash) → m ≠ here ++ [name]) :
    ((ensureDirectory p).on t).2.get? m = t.get? m := by
  rcases ran : (ensureDirectory p).on t with ⟨f | u, between⟩
  · rw [(ensureDirectory_on_error ran).1]
  · rcases ensureDirectory_on_ok.mp ran with made | ⟨-, -, rfl⟩
    · obtain ⟨here, name, slash, leads, -, rfl⟩ := makeDirectory_on_ok.mp made
      rw [get?_put t _ (by simp), if_neg (elsewhere here name slash leads)]
    · rfl

/-- Where nothing is missing on the way, only the directory itself is made. -/
theorem get?_makeDirectories (leads : t.spot p ≠ .error .missing) {m : Location}
    (elsewhere : ∀ here name slash, t.spot p = .ok (.named here name slash) → m ≠ here ++ [name]) :
    ((makeDirectories p).on t).2.get? m = t.get? m := by
  have once := get?_ensureDirectory elsewhere
  rw [makeDirectories, makeDirectoriesWithin]
  split
  · rfl
  · rw [on_tryCatch]
    rcases ran : (ensureDirectory p).on t with ⟨f | u, between⟩
    · obtain ⟨rfl, failed⟩ := ensureDirectory_on_error ran
      have present : f ≠ .io .missing := by
        rintro rfl
        rw [makeDirectory, on_bind, Disk.spot, on_inspect] at failed
        cases spot : between.spot p with
        | error g =>
          rw [spot] at failed
          cases failed
          exact leads spot
        | ok s =>
          rw [spot] at failed
          cases s with
          | directory => cases failed
          | named here name slash =>
            simp only [on_bind, on_get] at failed
            split at failed <;> cases failed
      dsimp only
      rw [if_neg present]
      rfl
    · rw [ran] at once
      exact once

end Disk

end PuzzlePrep

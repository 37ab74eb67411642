import PuzzlePrep.Proofs.Files.Confined

namespace PuzzlePrep

open PuzzlePrep.Path

theorem Split.fileName_injective {s s' : Split} (same : s.fileName = s'.fileName) : s = s' := by
  cases s <;> cases s' <;> simp [fileName, name] at same <;> rfl

theorem Split.temporary_ne (s s' : Split) : s.fileName ++ ".tmp" ≠ s'.fileName := by
  cases s <;> cases s' <;> decide

theorem Split.temporary_injective {s s' : Split}
    (same : s.fileName ++ ".tmp" = s'.fileName ++ ".tmp") : s = s' := by
  apply fileName_injective
  rw [← String.toList_inj] at same ⊢
  simpa using same

namespace Tree

variable {t t' : Tree} {l l' : Layout} {p q : Partition} {s s' : Split} {name other : String}

theorem inside_inj : t.inside l p name = t.inside l q other ↔ p = q ∧ name = other := by
  constructor
  · intro same
    have names := List.append_cancel_left same
    simp only [List.cons.injEq, and_true] at names
    exact ⟨Partition.name_injective names.1, names.2⟩
  · rintro ⟨rfl, rfl⟩
    rfl

theorem inside_ne (differ : t.place l ≠ t.place l') : t.inside l p name ≠ t.inside l' q other := by
  intro same
  exact differ (List.append_inj' same rfl).1

def Around (t : Tree) (l : Layout) (p : Partition) (s : Split) (m : Location) : Prop :=
  m = t.inside l p s.fileName ∨ m = t.inside l p (s.fileName ++ ".tmp")

theorem around_file : t.Around l p s (t.inside l q s'.fileName) ↔ q = p ∧ s' = s := by
  rw [Around, inside_inj, inside_inj]
  constructor
  · rintro (⟨rfl, names⟩ | ⟨-, names⟩)
    · exact ⟨rfl, Split.fileName_injective names⟩
    · exact absurd names.symm (s.temporary_ne s')
  · rintro ⟨rfl, rfl⟩
    exact Or.inl ⟨rfl, rfl⟩

theorem around_temporary :
    t.Around l p s (t.inside l q (s'.fileName ++ ".tmp")) ↔ q = p ∧ s' = s := by
  rw [Around, inside_inj, inside_inj]
  constructor
  · rintro (⟨-, names⟩ | ⟨rfl, names⟩)
    · exact absurd names (s'.temporary_ne s)
    · exact ⟨rfl, Split.temporary_injective names⟩
  · rintro ⟨rfl, rfl⟩
    exact Or.inr ⟨rfl, rfl⟩

theorem Around.within {m : Location} (h : t.Around l p s m) : ∃ p name, m = t.inside l p name := by
  rcases h with file | tmp
  · exact ⟨_, _, file⟩
  · exact ⟨_, _, tmp⟩

theorem around_congr (same : t'.workdir = t.workdir) (l : Layout) (p : Partition) (s : Split) :
    t'.Around l p s = t.Around l p s := by
  funext m
  rw [Around, Around, inside_congr same, inside_congr same]

def Above (t : Tree) (l : Layout) (m : Location) : Prop :=
  ∃ p : Partition, m <+: t.place l ++ [p.name]

/-- Neither root lies inside the other, nor are they the same. -/
def Apart (t : Tree) (l l' : Layout) : Prop :=
  ¬ t.place l <+: t.place l' ∧ ¬ t.place l' <+: t.place l

instance (t : Tree) (l l' : Layout) : Decidable (t.Apart l l') :=
  inferInstanceAs (Decidable (_ ∧ _))

theorem above_congr (same : t'.workdir = t.workdir) (l : Layout) : t'.Above l = t.Above l := by
  funext m
  rw [Above, Above, place_congr same]

theorem Apart.symm (apart : t.Apart l l') : t.Apart l' l := ⟨apart.2, apart.1⟩

theorem Apart.place_ne (apart : t.Apart l l') : t.place l ≠ t.place l' := by
  intro same
  exact apart.1 (same ▸ List.prefix_rfl)

theorem Apart.congr (apart : t.Apart l l') (same : t'.workdir = t.workdir) : t'.Apart l l' := by
  rw [Apart, place_congr same, place_congr same]
  exact apart

theorem not_above_inside (l : Layout) (p : Partition) (name : String) :
    ¬ t.Above l (t.inside l p name) := by
  rintro ⟨q, before⟩
  have longer := before.length_le
  simp [inside] at longer

theorem Apart.not_above_inside (apart : t.Apart l l') (p : Partition) (name : String) :
    ¬ t.Above l' (t.inside l p name) := by
  rintro ⟨q, before⟩
  have here : t.place l <+: t.place l' ++ [q.name] := (List.prefix_append _ _).trans before
  rcases List.prefix_or_prefix_of_prefix here (List.prefix_append _ _) with inner | outer
  · exact apart.1 inner
  · exact apart.2 outer

theorem directory_or_before_of_passes (sound : t.Sound) (settled : t.Settled l) {m : Location}
    (passes : (l.directory p).Passes t.workdir m) :
    t.get? m = some .directory ∨ m <+: t.place l ++ [p.name] := by
  obtain ⟨parts, before, rfl⟩ := passes
  obtain ⟨front, back, here, split, walked, down⟩ := settled
  have start : (if (l.directory p).isAbsolute then [] else t.workdir) = t.start l.root := by
    rw [← Tree.start, start_directory]
  have whole : (l.directory p).parts = front ++ (back ++ [p.name.toList]) := by
    rw [Layout.directory, parts_div p.plainName, split, List.append_assoc]
  have place : t.place l ++ [p.name] = along here (back ++ [p.name.toList]) := by
    rw [place, split, along_append, along_append, ← walk_eq_along walked]
    exact (past_of_plainName p.plainName _).symm
  rw [start]
  rw [whole] at before
  rcases List.prefix_or_prefix_of_prefix before (List.prefix_append _ _) with inner | ⟨rest, rfl⟩
  · -- Up to the end of the settled front there are directories all the way.
    left
    obtain ⟨there, first⟩ := exists_walk_of_prefix inner walked
    rw [← walk_eq_along first]
    exact sound.directory_of_walk (sound.directory_start l.root) first
  · -- From there on the path only goes down, to the directory of the partition.
    right
    obtain ⟨more, same⟩ := (List.prefix_append_right_inj _).mp before
    rw [place, along_append, ← walk_eq_along walked, ← same, along_append]
    apply prefix_along
    intro up
    have member : ['.', '.'] ∈ back ++ [p.name.toList] := same ▸ List.mem_append_right _ up
    rcases List.mem_append.mp member with inner | last
    · exact down inner
    · exact p.plainName.dots (List.mem_singleton.mp last).symm

theorem directory_or_above_of_passes (sound : t.Sound) (settled : t.Settled l) {m : Location}
    (passes : (l.directory p).Passes t.workdir m) :
    t.get? m = some .directory ∨ t.Above l m :=
  (directory_or_before_of_passes sound settled passes).imp id fun before => ⟨p, before⟩

theorem Confined.above {files : Location → Prop} (sound : t.Sound) (settled : t.Settled l)
    (h : Confined ((l.directory p).Passes t.workdir) files t t') : Confined (t.Above l) files t t' := by
  refine h.mono (fun m new passes => ?_) fun _ => id
  exact (directory_or_above_of_passes sound settled passes).resolve_left new

theorem Confined.same_apart {files : Location → Prop} (apart : t.Apart l l')
    (next : Confined (t.Above l') files t t')
    (within : ∀ m, files m → ∃ p name, m = t.inside l' p name) (p : Partition) (name : String) :
    t'.get? (t.inside l p name) = t.get? (t.inside l p name) := by
  apply next.same _ (apart.not_above_inside p _)
  intro touched
  obtain ⟨q, other, here⟩ := within _ touched
  exact inside_ne apart.place_ne here

theorem Confined.of_written {write : Except Failure Content} (sound : t.Sound)
    (settled : t.Settled l) (h : (Disk.writeAtomically (l.file p s) write).on t = (.ok (), t')) :
    Confined (t.Above l) (t.Around l p s) t t' := by
  have next := Disk.confined_writeAtomically l p s write t
  rw [h] at next
  refine (next.mono (fun _ _ => id) ?_).above sound settled
  rintro m (tmp | ⟨-, file⟩)
  · exact Or.inr tmp
  · exact Or.inl file

end Tree

end PuzzlePrep

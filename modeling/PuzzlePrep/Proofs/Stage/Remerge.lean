import PuzzlePrep.Proofs.Files.Alike
import PuzzlePrep.Proofs.Stage.Merge
import PuzzlePrep.Proofs.Stage.World

namespace PuzzlePrep

open PuzzlePrep.Tree

theorem SourceFiles.of_has {t t' : Tree} {l : Layout} {split : Split} {sources : List Partition}
    {found : List (Partition × Table)} (h : SourceFiles t l split sources found)
    (same : ∀ p ∈ sources, t'.has (l.file p split) = t.has (l.file p split) ∧
      (t.has (l.file p split) = true → t'.table (l.file p split) = t.table (l.file p split))) :
    SourceFiles t' l split sources found := by
  constructor
  · rw [h.partitions]
    exact List.filter_congr fun p member => ((same p member).1).symm
  · intro e member
    obtain ⟨source, has⟩ := h.mem member
    rw [(same e.1 source).2 has]
    exact h.tables e member

namespace Disk

variable {t t' t'' u : Tree} {l : Layout} {sources : List Partition} {output : Partition}
  {s s' : Split} {outcome : MergeOutcome}

/-- The outcome of merging a split, of which all is there still. -/
def Merged (t : Tree) (l : Layout) (sources : List Partition) (output : Partition) (s : Split)
    (outcome : MergeOutcome) : Prop :=
  ∃ found, SourceFiles t l s sources found ∧
    (found = [] ∧ outcome = .noData ∨
      found ≠ [] ∧ outcome = outcomeOf (l.file output s) found ∧ ∃ merged content,
        Table.concat (found.map Prod.snd) = .ok merged ∧ merged.fileContent = .ok content ∧
        t.Holds l output s content)

theorem Merged.of_same (h : Merged t l sources output s outcome)
    (same : ∀ p ∈ sources, t'.has (l.file p s) = t.has (l.file p s) ∧
      (t.has (l.file p s) = true → t'.table (l.file p s) = t.table (l.file p s)))
    (holds : ∀ content, t.Holds l output s content → t'.Holds l output s content) :
    Merged t' l sources output s outcome := by
  obtain ⟨found, files, none | ⟨brings, told, merged, content, concat, given, held⟩⟩ := h
  · exact ⟨found, files.of_has same, Or.inl none⟩
  · exact ⟨found, files.of_has same,
      Or.inr ⟨brings, told, merged, content, concat, given, holds content held⟩⟩

theorem Merged.of_alike (h : Merged t l sources output s outcome) (alike : t.Alike t') :
    Merged t' l sources output s outcome :=
  h.of_same (fun _ _ => ⟨alike.has _, fun _ => alike.table _⟩) fun _ held => held.of_alike alike

theorem Merged.unique {outcome' : MergeOutcome} (h : Merged t l sources output s outcome)
    {found : List (Partition × Table)} (files : SourceFiles t l s sources found)
    (h' : found = [] ∧ outcome' = .noData ∨
      found ≠ [] ∧ outcome' = outcomeOf (l.file output s) found) : outcome = outcome' := by
  obtain ⟨found', files', how⟩ := h
  have same : found' = found := by
    have read := sourceTables_eq_ok_iff.mpr files
    rw [sourceTables_eq_ok_iff.mpr files'] at read
    exact Except.ok.inj read
  subst same
  rcases how with ⟨none, rfl⟩ | ⟨brings, rfl, -⟩ <;> rcases h' with ⟨none', rfl⟩ | ⟨brings', rfl⟩
  · rfl
  · exact absurd none brings'
  · exact absurd none' brings
  · rfl

structure Remains (l : Layout) (sources : List Partition) (output : Partition) (t t' : Tree) :
    Prop where
  confined : Confined (t.Above l) (fun m => ∃ s, t.Around l output s m) t t'
  merged : ∀ s outcome, Merged t l sources output s outcome → Merged t' l sources output s outcome

theorem Remains.refl (l : Layout) (sources : List Partition) (output : Partition) (t : Tree) :
    Remains l sources output t t := ⟨.refl _ _ t, fun _ _ => id⟩

theorem Remains.trans (first : Remains l sources output t t')
    (second : Remains l sources output t' t'') : Remains l sources output t t'' := by
  refine ⟨first.confined.trans ?_, fun s outcome => second.merged s outcome ∘ first.merged s outcome⟩
  have next := second.confined
  rw [above_congr first.confined.keeps.workdir] at next
  simpa only [around_congr first.confined.keeps.workdir] using next

theorem remains_mergeSplit (differ : output ∉ sources) (sound : t.Sound) (settled : t.Settled l)
    (ran : (mergeSplit l sources output s).on t = (.ok outcome, t')) :
    Remains l sources output t t' ∧ Merged t' l sources output s outcome := by
  obtain ⟨found, files, ⟨none, told, rfl⟩ | ⟨brings, told, merged, concat, wrote⟩⟩ :=
    mergeSplit_on_ok.mp ran
  · exact ⟨.refl l sources output t', found, files, Or.inl ⟨none, told⟩⟩
  · obtain ⟨content, given, wrote⟩ := writeTable_on_ok.mp wrote
    have next := Confined.of_written sound settled wrote
    have same (s' : Split) : ∀ p ∈ sources, t'.has (l.file p s') = t.has (l.file p s') ∧
        (t.has (l.file p s') = true → t'.table (l.file p s') = t.table (l.file p s')) := by
      intro p member
      have here : t'.get? (t.inside l p s'.fileName) = t.get? (t.inside l p s'.fileName) := by
        apply next.same _ (not_above_inside _ _ _)
        rw [around_file]
        rintro ⟨rfl, -⟩
        exact differ member
      exact ⟨has_file_congr sound settled next.keeps here,
        fun has => table_congr (find_file_of_keeps next.keeps here has)⟩
    have new : Merged t' l sources output s outcome := by
      obtain ⟨content', equal, holds⟩ := Holds.of_writeAtomically wrote
      cases equal
      exact ⟨found, files.of_has (same s),
        Or.inr ⟨brings, told, merged, content, concat, given, holds⟩⟩
    refine ⟨⟨next.mono (fun _ _ => id) fun m around => ⟨s, around⟩, fun s' other old => ?_⟩, new⟩
    by_cases again : s' = s
    · -- The file was written anew, from the same sources as before.
      subst again
      rw [old.unique files (Or.inr ⟨brings, told⟩)]
      exact new
    · refine old.of_same (same s') fun content held => held.of_keeps next.keeps
        (next.same ?_ (not_above_inside _ _ _)) (next.same ?_ (not_above_inside _ _ _))
      · rw [around_file]
        exact fun here => again here.2
      · rw [around_temporary]
        exact fun here => again here.2

/-- What a merge comes to, and that all of it is there when it is done. -/
theorem merge_on_ok {report : MergeReport} (differ : output ∉ sources) (sound : t.Sound)
    (settled : t.Settled l) (ran : (merge l sources output).on t = (.ok report, t')) :
    report.output = output ∧ Remains l sources output t t' ∧
      List.Forall₂ (fun s e => e.1 = s ∧ Merged t' l sources output s e.2) Split.staged
        report.splits := by
  obtain ⟨splits, after, each, last⟩ := bind_on_ok.mp ran
  cases last
  obtain ⟨-, all, remains⟩ := mapM_ok_of_steps
    (fun u : Tree => u.Sound ∧ u.Settled l)
    (fun s (e : Split × MergeOutcome) u => e.1 = s ∧ Merged u l sources output s e.2)
    (Remains l sources output) (.refl l sources output) Remains.trans
    (fun {s e u u'} brought remains => ⟨brought.1, remains.merged s e.2 brought.2⟩)
    (fun s _ u e u' start ran => by
      obtain ⟨outcome, _, ran, last⟩ := bind_on_ok.mp ran
      cases last
      obtain ⟨remains, merged⟩ := remains_mergeSplit differ start.1 start.2 ran
      exact ⟨⟨remains.confined.sound start.1, start.2.of_keeps remains.confined.keeps⟩,
        ⟨rfl, merged⟩, remains⟩)
    ⟨sound, settled⟩ each
  exact ⟨rfl, remains, all⟩

theorem mergeSplit_of_merged (h : Merged t l sources output s outcome) :
    ∃ t', (mergeSplit l sources output s).on t = (.ok outcome, t') ∧ t.Alike t' := by
  obtain ⟨found, files, none | ⟨brings, told, merged, content, concat, given, held⟩⟩ := h
  · exact ⟨t, mergeSplit_on_ok.mpr ⟨found, files, Or.inl ⟨none.1, none.2, rfl⟩⟩, .refl t⟩
  · obtain ⟨t', wrote, alike⟩ := held.write_again
    have ran := writeTable_on_ok.mpr ⟨content, given, wrote⟩
    exact ⟨t', mergeSplit_on_ok.mpr ⟨found, files, Or.inr ⟨brings, told, merged, concat, ran⟩⟩, alike⟩

/-- Merging where all of an earlier merge is there gives the same report and the same files. -/
theorem merge_again {report : MergeReport} (told : report.output = output)
    (all : List.Forall₂ (fun s e => e.1 = s ∧ Merged t l sources output s e.2) Split.staged
      report.splits) (alike : t.Alike u) :
    ∃ u', (merge l sources output).on u = (.ok report, u') ∧ t.Alike u' := by
  obtain ⟨u', ran, alike'⟩ := mapM_ok_of_each (fun u : Tree => t.Alike u)
    (f := fun s => do return (s, ← mergeSplit l sources output s))
    (all.imp fun s e here u alike => by
      obtain ⟨rfl, merged⟩ := here
      obtain ⟨u', ran, alike'⟩ := mergeSplit_of_merged (merged.of_alike alike)
      exact ⟨u', bind_on_ok.mpr ⟨e.2, u', ran, rfl⟩, alike.trans alike'⟩) alike
  subst told
  exact ⟨u', bind_on_ok.mpr ⟨report.splits, u', ran, rfl⟩, alike'⟩

end Disk

end PuzzlePrep

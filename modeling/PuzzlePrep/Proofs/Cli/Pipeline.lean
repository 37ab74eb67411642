import PuzzlePrep.Proofs.Cli.Settings
import PuzzlePrep.Proofs.Settings.Flaws
import PuzzlePrep.Proofs.Stage.Extent

namespace PuzzlePrep

namespace Cli.Context

variable (c : Context) (w : World)

theorem settings_leaves : ∃ r, c.settings.on w = (r, w) := by
  unfold Context.settings
  rw [Action.on_get_bind]
  cases Settings.load w.tree c.surroundings.environment (some c.workspace) c.options.config with
  | error fault => exact ⟨_, rfl⟩
  | ok s => exact ⟨_, rfl⟩

theorem pipeline_leaves (routine : Option RoutineKind) : ((c.pipeline routine).on w).2 = w := by
  obtain ⟨r, read⟩ := c.settings_leaves w
  rw [Context.pipeline, Action.on_bind, read]
  cases r with
  | error complaint => rfl
  | ok s =>
    dsimp only
    rw [Action.on_get_bind]
    cases Pipeline.build _ _ _ <;> rfl

end Cli.Context

namespace Pipeline

variable {settings : Settings} {workspace : Path} {routine : Routine} {p : Pipeline} {f : Failure}

theorem build_eq_error_iff :
    build settings workspace routine = .error f ↔ settings.validate = .error f := by
  rcases valid : settings.validate with g | ⟨⟨⟩⟩
  · rw [build, valid]
    constructor
    · intro told
      cases told
      rfl
    · intro told
      cases told
      rfl
  · obtain ⟨p, built, -⟩ := build_of_valid valid workspace routine
    simp [built]

theorem allPartitions_of_build (built : build settings workspace routine = .ok p) :
    settings.allPartitions = .ok p.allPartitions ∧
      p.allPartitions.map Partition.name = settings.partitions ++
        (if settings.merge.output ∈ settings.partitions then [] else [settings.merge.output]) ∧
      p.merged.name = settings.merge.output ∧ p.merged ∈ p.allPartitions ∧
      (settings.partitions.Nodup → p.allPartitions.Nodup) := by
  obtain ⟨_, valid, -⟩ := bind_eq_ok.mp built
  obtain ⟨p', built', -, -, fetched, -, merged⟩ := build_of_valid valid workspace routine
  rw [built] at built'
  cases built'
  have output : p.merged.name = settings.merge.output := Partition.ofName_eq_ok_iff.mp merged
  have names : p.fetched.map Partition.name = settings.partitions := by
    rcases Settings.ofNames_cases settings.partitions with ⟨-, ps, found, names⟩ | ⟨f, -, -, told⟩
    · cases found.symm.trans fetched
      exact names
    · cases told.symm.trans fetched
  refine ⟨?_, ?_, output, Settings.mem_withPartition.mpr (Or.inr rfl), fun apart => ?_⟩
  · rw [Settings.allPartitions, fetched, ok_bind, merged, ok_bind]
    rfl
  · rw [allPartitions, Settings.names_withPartition, names, output]
  · rw [← names] at apart
    exact Settings.nodup_withPartition (List.Nodup.of_map _ apart) p.merged

/-- A pipeline is built exactly from sound settings, and otherwise the first flaw is told. Its partitions
are those that the settings list, the fetched ones and then the merged one unless it is among them. A
command that builds its pipeline changes nothing, whether it can be built or not. -/
theorem build_iff_sound (settings : Settings) (workspace : Path) (routine : Routine) :
    ((∃ p, build settings workspace routine = .ok p) ↔ settings.Sound) ∧
      (∀ f, build settings workspace routine = .error f ↔ settings.flaws.head? = some f) ∧
      (∀ p, build settings workspace routine = .ok p →
        settings.allPartitions = .ok p.allPartitions ∧
        p.allPartitions.map Partition.name = settings.partitions ++
          (if settings.merge.output ∈ settings.partitions then [] else [settings.merge.output]) ∧
        p.merged.name = settings.merge.output ∧ p.merged ∈ p.allPartitions ∧
        (settings.partitions.Nodup → p.allPartitions.Nodup)) ∧
      ∀ (c : Cli.Context) (kind : Option RoutineKind) (w : World), ((c.pipeline kind).on w).2 = w := by
  refine ⟨?_, fun f => ?_, fun p => allPartitions_of_build, fun c kind w => c.pipeline_leaves w kind⟩
  · rw [← Settings.validate_eq_ok_iff]
    constructor
    · rintro ⟨p, built⟩
      obtain ⟨⟨⟩, valid, -⟩ := bind_eq_ok.mp built
      exact valid
    · intro valid
      obtain ⟨p, built, -⟩ := build_of_valid valid workspace routine
      exact ⟨p, built⟩
  · rw [build_eq_error_iff, Settings.validate_eq_error_iff]

/-- Three fetched partitions with the merged one among them; and two bad names and no source, of all
which the first name is told. -/
theorem build_iff_sound_of_three : ∃ p,
    build (settingsFor "raw" "processed" ["3ppl", "mix", "4ppl"] ["5ppl"]) ⟨"/work"⟩ .native = .ok p ∧
      p.allPartitions.map Partition.name = ["3ppl", "mix", "4ppl"] ∧ p.allPartitions.Nodup ∧
      build (settingsFor "raw" "processed" ["3ppl", "..", "a/b"] []) ⟨"/work"⟩ .native =
        .error (.nestedPartition "..") := by
  obtain ⟨sound, -, partitions, -⟩ := build_iff_sound
    (settingsFor "raw" "processed" ["3ppl", "mix", "4ppl"] ["5ppl"]) ⟨"/work"⟩ .native
  obtain ⟨-, first, -⟩ := build_iff_sound
    (settingsFor "raw" "processed" ["3ppl", "..", "a/b"] []) ⟨"/work"⟩ .native
  obtain ⟨p, built⟩ := sound.mpr ((Settings.sound_iff _).mpr (by decide))
  obtain ⟨-, names, -, -, apart⟩ := partitions p built
  exact ⟨p, built, names, apart (by decide), (first _).mpr (by decide)⟩

end Pipeline

end PuzzlePrep

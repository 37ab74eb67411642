import PuzzlePrep.Proofs.Files.Layout
import PuzzlePrep.Settings.Basic

namespace PuzzlePrep

def Partition.ValidName (name : String) : Prop :=
  name ≠ "" ∧ '/' ∉ name.toList ∧ '\\' ∉ name.toList ∧ name ≠ "." ∧ name ≠ ".."

instance : DecidablePred Partition.ValidName := fun name =>
  inferInstanceAs (Decidable
    (name ≠ "" ∧ '/' ∉ name.toList ∧ '\\' ∉ name.toList ∧ name ≠ "." ∧ name ≠ ".."))

namespace Settings

open PuzzlePrep.Partition (ValidName)

def refusal (name : String) : Failure :=
  if name = "" then .emptyPartition else .nestedPartition name

def refusals (names : List String) : List Failure :=
  (names.filter fun name => !decide (ValidName name)).map refusal

def mergeFlaws (s : Settings) : List Failure :=
  (if s.merge.sources = [] then [.noMergeSources] else []) ++
    (if s.merge.output ∈ s.merge.sources then [.mergeIntoSource s.merge.output] else []) ++
    (if Text.allBlank s.fetch.baseUrl.toList then [.blankBaseUrl] else [])

/-- All that is wrong with the settings, in the order in which it is told. -/
def flaws (s : Settings) : List Failure :=
  refusals s.partitions ++ (refusals [s.merge.output] ++ (refusals s.merge.sources ++ s.mergeFlaws))

def firstOf : List Failure → Except Failure Unit
  | [] => .ok ()
  | f :: _ => .error f

/-- All names are valid, something is merged into another partition, and there is a base URL. -/
structure Sound (s : Settings) : Prop where
  partitions : ∀ name ∈ s.partitions, ValidName name
  output : ValidName s.merge.output
  sources : ∀ name ∈ s.merge.sources, ValidName name
  merges : s.merge.sources ≠ []
  apart : s.merge.output ∉ s.merge.sources
  baseUrl : ∃ c ∈ s.fetch.baseUrl.toList, Text.isBlank c = false

section Names

variable {name : String} {names : List String}

theorem refusals_cons (name : String) (names : List String) : refusals (name :: names) =
    if ValidName name then refusals names else refusal name :: refusals names := by
  by_cases valid : ValidName name <;> simp [refusals, valid]

theorem refusals_eq_nil_iff : refusals names = [] ↔ ∀ name ∈ names, ValidName name := by
  simp [refusals]

theorem ofName_of_valid (valid : ValidName name) :
    ∃ p, Partition.ofName name = .ok p ∧ p.name = name :=
  ⟨⟨name, Partition.isSegment_iff.mpr valid⟩, Partition.ofName_eq_ok_iff.mpr rfl, rfl⟩

theorem ofName_of_not_valid (bad : ¬ ValidName name) :
    Partition.ofName name = .error (refusal name) := by
  have other : ¬ Partition.isSegment name = true := fun segment =>
    bad (Partition.isSegment_iff.mp segment)
  rw [Partition.ofName, dif_neg other, refusal]
  split <;> rfl

/-- Names become partitions one by one, or the first refusal is told. -/
theorem ofNames_cases (names : List String) :
    (refusals names = [] ∧ ∃ ps, Partition.ofNames names = .ok ps ∧
      ps.map Partition.name = names) ∨
    ∃ f more, refusals names = f :: more ∧ Partition.ofNames names = .error f := by
  induction names with
  | nil => exact Or.inl ⟨rfl, [], rfl, rfl⟩
  | cons name names ih =>
    rw [refusals_cons, Partition.ofNames, List.mapM_cons]
    by_cases valid : ValidName name
    · obtain ⟨p, named, same⟩ := ofName_of_valid valid
      rw [if_pos valid, named, ok_bind]
      rcases ih with ⟨none, ps, found, names⟩ | ⟨f, more, first, told⟩
      · rw [Partition.ofNames] at found
        exact Or.inl ⟨none, p :: ps, by rw [found]; rfl, by rw [List.map_cons, same, names]⟩
      · rw [Partition.ofNames] at told
        exact Or.inr ⟨f, more, first, by rw [told]; rfl⟩
    · rw [if_neg valid, ofName_of_not_valid valid]
      exact Or.inr ⟨_, _, rfl, rfl⟩

end Names

theorem sound_iff (s : Settings) : s.Sound ↔ s.flaws = [] := by
  simp only [flaws, mergeFlaws, List.append_eq_nil_iff, refusals_eq_nil_iff, List.mem_singleton,
    forall_eq, ite_eq_right_iff, List.cons_ne_nil, imp_false, Text.allBlank, List.all_eq_true,
    not_forall, exists_prop, Bool.not_eq_true]
  constructor
  · rintro ⟨partitions, output, sources, merges, apart, url⟩
    exact ⟨partitions, output, sources, ⟨merges, apart⟩, url⟩
  · rintro ⟨partitions, output, sources, ⟨merges, apart⟩, url⟩
    exact ⟨partitions, output, sources, merges, apart, url⟩

theorem contains_iff_name_mem {ps : List Partition} {p : Partition} :
    ps.contains p = true ↔ p.name ∈ ps.map Partition.name := by
  rw [List.contains_iff_mem]
  refine ⟨List.mem_map_of_mem, fun member => ?_⟩
  obtain ⟨q, inside, same⟩ := List.mem_map.mp member
  rwa [← Partition.name_injective same]

theorem validate_of_names {s : Settings} {fetched sources : List Partition} {merged : Partition}
    (listed : s.fetchedPartitions = .ok fetched) (named : s.mergeSources = .ok sources)
    (output : s.mergedPartition = .ok merged) (names : sources.map Partition.name = s.merge.sources)
    (name : merged.name = s.merge.output) : s.validate = firstOf s.mergeFlaws := by
  have empty : sources.isEmpty = true ↔ s.merge.sources = [] := by
    rw [← names, List.map_eq_nil_iff, List.isEmpty_iff]
  have among : sources.contains merged = true ↔ s.merge.output ∈ s.merge.sources := by
    rw [contains_iff_name_mem, names, name]
  simp only [validate, allPartitions, listed, named, output, ok_bind, mergeFlaws, ← empty, ← among]
  cases sources.isEmpty <;> cases sources.contains merged <;>
    cases Text.allBlank s.fetch.baseUrl.toList <;> rfl

theorem validate_eq (s : Settings) : s.validate = firstOf s.flaws := by
  rw [flaws]
  rcases ofNames_cases s.partitions with ⟨none, fetched, listed, -⟩ | ⟨f, more, first, told⟩
  · rw [none, List.nil_append]
    by_cases valid : ValidName s.merge.output
    · obtain ⟨merged, output, name⟩ := ofName_of_valid valid
      rw [refusals_cons, if_pos valid, show refusals [] = [] from rfl, List.nil_append]
      rcases ofNames_cases s.merge.sources with ⟨none, sources, named, names⟩ | ⟨f, more, first, told⟩
      · rw [none, List.nil_append]
        exact validate_of_names listed named output names name
      · rw [first]
        simp only [validate, allPartitions, fetchedPartitions, mergeSources, mergedPartition, listed,
          output, told, ok_bind]
        rfl
    · rw [refusals_cons, if_neg valid]
      simp only [validate, allPartitions, fetchedPartitions, mergedPartition, listed, ok_bind,
        ofName_of_not_valid valid]
      rfl
  · rw [first]
    simp only [validate, allPartitions, fetchedPartitions, told]
    rfl

theorem validate_eq_ok_iff (s : Settings) : s.validate = .ok () ↔ s.Sound := by
  rw [validate_eq, sound_iff]
  cases s.flaws <;> simp [firstOf]

theorem validate_eq_error_iff (s : Settings) (f : Failure) :
    s.validate = .error f ↔ s.flaws.head? = some f := by
  rw [validate_eq]
  cases s.flaws <;> simp [firstOf]

theorem nodup_withPartition {ps : List Partition} (apart : ps.Nodup) (p : Partition) :
    (withPartition ps p).Nodup := by
  rw [withPartition]
  split
  · exact apart
  · rename_i other
    rw [List.contains_iff_mem] at other
    exact List.nodup_append.mpr ⟨apart, List.pairwise_singleton _ p, by
      rintro q inside q' only rfl
      exact other (List.mem_singleton.mp only ▸ inside)⟩

theorem names_withPartition (ps : List Partition) (p : Partition) :
    (withPartition ps p).map Partition.name =
      ps.map Partition.name ++ if p.name ∈ ps.map Partition.name then [] else [p.name] := by
  simp only [withPartition, ← contains_iff_name_mem]
  split <;> simp

end Settings

end PuzzlePrep

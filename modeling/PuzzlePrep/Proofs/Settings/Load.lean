import PuzzlePrep.Proofs.Settings.Decode
import PuzzlePrep.Proofs.Settings.Environment

namespace PuzzlePrep.Settings

open Setting (Ordered wellTyped_iff)
open Setting.Reader (leaves proper_leaves)

theorem wellTyped_stack {layers : List Setting} (ordered : ∀ j ∈ layers, Ordered j)
    (typed : ∀ j ∈ layers, j.wellTyped) : (stack layers).wellTyped ∧
      ∀ l ∈ leaves, (stack layers).at? l.path = layers.reverse.findSome? (·.at? l.path) := by
  have way : ∀ l ∈ leaves, ∀ j ∈ layers, Setting.clear l.path j := by
    intro l isLeaf j member
    exact (wellTyped_iff.mp (typed j member) l isLeaf).1
  have highest : ∀ l ∈ leaves,
      (stack layers).at? l.path = layers.reverse.findSome? (·.at? l.path) := by
    intro l isLeaf
    exact (Setting.at?_stack (proper_leaves l isLeaf) ordered (way l isLeaf)).2
  refine ⟨wellTyped_iff.mpr ?_, highest⟩
  intro l isLeaf
  refine ⟨(Setting.at?_stack (proper_leaves l isLeaf) ordered (way l isLeaf)).1, ?_⟩
  intro v found
  rw [highest l isLeaf] at found
  obtain ⟨j, member, here⟩ := List.exists_of_findSome?_eq_some found
  exact (wellTyped_iff.mp (typed j (List.mem_reverse.mp member)) l isLeaf).2 v here

section Load

variable {t : Tree} {env : Environment} {file : Option Path} {user nearby asked : Setting}

theorem load_of_layers (workspace : Option Path)
    (userGiven : layerIfThere t (userFile? env) = .ok user)
    (nearbyGiven : layerIfThere t (workspace.map workspaceFile) = .ok nearby)
    (askedGiven : layerAsked t file = .ok asked)
    (typed : ∀ j ∈ [user, nearby, asked, Setting.ofEnvironment env], j.wellTyped) :
    ∃ s, load t env workspace file = .ok s ∧
      ∀ l ∈ leaves, l.Given
        ([Setting.ofEnvironment env, asked, nearby, user].findSome? (·.at? l.path)) s default := by
  have all : layers t env workspace file = .ok [user, nearby, asked, Setting.ofEnvironment env] := by
    unfold layers
    rw [userGiven, nearbyGiven, askedGiven]
    rfl
  have ordered : ∀ j ∈ [user, nearby, asked, Setting.ofEnvironment env], Ordered j := by
    simp [layerIfThere_ordered userGiven, layerIfThere_ordered nearbyGiven,
      layerAsked_ordered askedGiven, Setting.ofEnvironment_ordered]
  obtain ⟨whole, highest⟩ := wellTyped_stack ordered typed
  obtain ⟨s, read, given⟩ := Setting.ofSetting_of_wellTyped (Setting.ordered_stack ordered) whole
  refine ⟨s, ?_, ?_⟩
  · unfold load
    rw [all]
    exact read
  · intro l isLeaf
    have here := given l isLeaf
    rw [highest l isLeaf] at here
    exact here

end Load

end PuzzlePrep.Settings

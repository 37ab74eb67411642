import PuzzlePrep.Proofs.Answer.Form
import PuzzlePrep.Proofs.Record.Null
import PuzzlePrep.Proofs.Record.Reference
import PuzzlePrep.Stage.Convert

namespace PuzzlePrep.Record

open Text

def responseTexts (row : Json.Members) : List (List Char) :=
  (textAt row "cot_head").toList ::
    ((textsAt row "cot_repeat_steps").map String.toList ++
      [(textAt row "cot_foot").toList, (textAt row "solution_text_format").toList])

def HoldsTag (row : Json.Members) : Prop :=
  ∃ t ∈ Tag.all, ∃ text ∈ responseTexts row, Occurs t.text text

instance : DecidablePred HoldsTag := fun row =>
  inferInstanceAs (Decidable (∃ t ∈ Tag.all, ∃ text ∈ responseTexts row, Occurs t.text text))

/-- How many names the row lists, or three where it lists none. -/
def castSize (row : Json.Members) : Nat :=
  match row.get? "names" with
  | some (.arr names) => if names.isEmpty then 3 else names.length
  | _ => 3

variable (row : Json.Members) (split : Split) (index : Nat)

/-- The texts of a row that has strings for them; empty steps are left out. -/
theorem responseTexts_of_strings {row : Json.Members} {head foot solution : String} {steps : List String}
    (atHead : row.get? "cot_head" = some (.str head))
    (atSteps : row.get? "cot_repeat_steps" = some (.arr (steps.map .str)))
    (atFoot : row.get? "cot_foot" = some (.str foot))
    (atSolution : row.get? "solution_text_format" = some (.str solution)) :
    responseTexts row = head.toList ::
      ((steps.filter (· != "")).map String.toList ++ [foot.toList, solution.toList]) := by
  have kept : textsAt row "cot_repeat_steps" = steps.filter (· != "") := by
    rw [textsAt, atSteps]
    simp only [List.filter_map, List.map_map]
    exact List.map_id _
  rw [responseTexts, textAt_of_get? atHead rfl, textAt_of_get? atFoot rfl, textAt_of_get? atSolution rfl,
    kept]
  rfl

theorem not_holdsTag_iff {row : Json.Members} :
    ¬ HoldsTag row ↔ ∀ text ∈ responseTexts row, TagFree text := by
  constructor
  · intro none text member t occurs
    exact none ⟨t, t.mem_all, text, member, occurs⟩
  · rintro free ⟨t, -, text, member, occurs⟩
    exact free text member t occurs

theorem expectedLines_ofRow : (ofRow row split index).expectedLines = castSize row := by
  unfold castSize
  simp only [expectedLines, ofRow]
  cases row.get? "names" with
  | none => rfl
  | some names =>
    cases names with
    | arr names => cases names <;> rfl
    | _ => rfl

theorem toList_response_eq : (ofRow row split index).response.content.toList =
    referenceResponse (explanation row) (solutionIn row) := by simp [ofRow]

theorem tagFree_explanation_solution {row : Json.Members} :
    (∀ cs ∈ (explanation row).head :: ((explanation row).steps ++ [(explanation row).foot]),
      TagFree cs) ∧ TagFree (solutionIn row) ↔ ∀ text ∈ responseTexts row, TagFree text := by
  simp only [solutionIn, tagFree_normalizeNewlines, tagFree_trim, explanation, responseTexts,
    List.forall_mem_cons, List.forall_mem_append, List.not_mem_nil, false_imp_iff, implies_true,
    and_true, and_assoc]

theorem badStructure_ofRow :
    (ofRow row split index).badStructure = true ↔ HoldsTag row := by
  rw [badStructure, toList_response_eq, Bool.not_eq_true', ← Bool.not_eq_true,
    inGoodOrder_referenceResponse, tagFree_explanation_solution, ← not_holdsTag_iff, not_not]

theorem firstAnswer?_ne_none_of_isBlock {response block : List Char} (h : IsBlock response block) :
    firstAnswer? response ≠ none := by
  simpa [firstAnswer?] using answerBlocks_ne_nil_of_isBlock h

theorem firstAnswer?_ofRow_ne_none :
    firstAnswer? (ofRow row split index).response.content.toList ≠ none := by
  rw [toList_response_eq, ← text_referenceSections]
  exact firstAnswer?_ne_none_of_isBlock (Sections.isBlock _)

/-- Where no tag stands in the way, the answer that is checked is the solution. -/
theorem badAnswer_ofRow (untagged : ¬ HoldsTag row) :
    (ofRow row split index).badAnswer = true ↔ ¬ IsAnswerText (castSize row) (solutionIn row) := by
  have ordered : inGoodOrder (referenceResponse (explanation row) (solutionIn row)) = true := by
    rw [inGoodOrder_referenceResponse, tagFree_explanation_solution]
    exact not_holdsTag_iff.mp untagged
  have settled : normalizeNewlines (trim (solutionIn row)) = trim (solutionIn row) :=
    normalizeNewlines_trim _
  have read : firstAnswer? (referenceResponse (explanation row) (solutionIn row)) =
      some (trim (solutionIn row)) := by
    rw [firstAnswer?_referenceResponse ordered, settled, trim_trim]
  rw [badAnswer, toList_response_eq, read, expectedLines_ofRow]
  simp [isAnswer_iff_isAnswerText, isAnswerText_trim, ← Bool.not_eq_true]

theorem badAnswer_index : (ofRow row split index).badAnswer = (ofRow row split 0).badAnswer := by
  simp only [badAnswer, toList_response_eq, expectedLines_ofRow]

section Rows

variable (rows : List Json.Members)

theorem take_ofRows (limit : Nat) :
    (ofRows rows split).take limit = ofRows (rows.take limit) split := by
  apply List.ext_getElem?
  intro i
  simp only [ofRows, List.getElem?_take, List.getElem?_map, List.getElem?_zipIdx]
  split <;> rfl

/-- What holds of records whatever their positions are is counted on the rows. -/
theorem countP_ofRows {p : Record → Bool} {q : Json.Members → Bool}
    (same : ∀ row index, p (ofRow row split index) = q row) :
    (ofRows rows split).countP p = rows.countP q := by
  conv => rhs; rw [← List.zipIdx_map_fst 0 rows]
  rw [ofRows, List.countP_map, List.countP_map]
  congr 1
  funext x
  exact same x.1 x.2

/-- The counts of a preview are those of the first rows that hold a tag, and of those whose solution does
not have the form of an answer. -/
theorem preview_ofRows (limit : Nat) :
    (preview (ofRows rows split) limit).checked = min limit rows.length ∧
    (∀ r ∈ ofRows rows split, firstAnswer? r.response.content.toList ≠ none) ∧
    (preview (ofRows rows split) limit).structureFailures =
      (rows.take limit).countP (HoldsTag ·) ∧
    (preview (ofRows rows split) limit).issues = (rows.take limit).countP fun row =>
      if HoldsTag row then (ofRow row split 0).badAnswer
      else !decide (IsAnswerText (castSize row) (solutionIn row)) := by
  rw [preview, take_ofRows]
  refine ⟨?_, ?_, ?_, ?_⟩
  · simp [ofRows]
  · intro r member
    obtain ⟨⟨row, index⟩, -, rfl⟩ := List.mem_map.mp member
    exact firstAnswer?_ofRow_ne_none row split index
  · refine countP_ofRows split _ fun row index => ?_
    rw [Bool.eq_iff_iff, badStructure_ofRow, decide_eq_true_iff]
  · refine countP_ofRows split _ fun row index => ?_
    split
    · exact badAnswer_index row _ index
    · rename_i untagged
      rw [Bool.eq_iff_iff, badAnswer_ofRow row _ index untagged]
      simp

end Rows

end PuzzlePrep.Record

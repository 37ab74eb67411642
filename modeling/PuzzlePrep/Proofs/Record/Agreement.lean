import PuzzlePrep.Proofs.Answer.Surroundings
import PuzzlePrep.Proofs.Record.Reference

namespace PuzzlePrep

open Text

/-- The text between the last opening answer tag of a response and the first end tag behind it. -/
def IsLastBlock (response block : List Char) : Prop :=
  ∃ before behind, response = before ++ Tag.answer.text ++ block ++ Tag.endAnswer.text ++ behind ∧
    ¬ Occurs Tag.answer.text (block ++ Tag.endAnswer.text ++ behind) ∧
    ¬ Occurs Tag.endAnswer.text block

section LastBlock

variable {response block block' : List Char}

theorem IsLastBlock.unique (h : IsLastBlock response block) (h' : IsLastBlock response block') :
    block = block' := by
  obtain ⟨before, behind, split, last, first⟩ := h
  obtain ⟨before', behind', split', last', first'⟩ := h'
  simp only [List.append_assoc] at split split' last last'
  have opened : before ++ Tag.answer.text ++ (block ++ (Tag.endAnswer.text ++ behind)) =
      before' ++ Tag.answer.text ++ (block' ++ (Tag.endAnswer.text ++ behind')) := by
    simp only [List.append_assoc, ← split, ← split']
  have closed := Tag.last_unique opened last last'
  simp only [← List.append_assoc] at closed
  exact Tag.first_unique closed first first'

/-- What a reference response says between its last answer tags. -/
theorem isLastBlock_referenceResponse (e : Explanation) {answer : List Char}
    (free : ¬ Occurs Tag.answer.text (normalizeNewlines (trim answer)))
    (endFree : ¬ Occurs Tag.endAnswer.text (normalizeNewlines (trim answer))) :
    IsLastBlock (referenceResponse e answer) (normalizeNewlines (trim answer)) := by
  refine ⟨Tag.think.text ++ e.reasoning ++ Tag.endThink.text, [], by simp [referenceResponse], ?_,
    endFree⟩
  rw [← countOf_eq_zero_iff (Tag.text_ne_nil _)] at free ⊢
  rw [Tag.countOf_append, free]
  rfl

end LastBlock

namespace Record

theorem toList_solution_ofRow (row : Json.Members) (split : Split) (index : Nat) :
    (ofRow row split index).truth.solution.toList =
      normalizeNewlines (trim (textAt row "solution_text_format").toList) := by
  simp only [ofRow, solutionIn, String.toList_ofList]

theorem toList_content_ofRow (row : Json.Members) (split : Split) (index : Nat) :
    (ofRow row split index).response.content.toList =
      referenceResponse (explanation row) (ofRow row split index).truth.solution.toList := by
  simp only [ofRow, String.toList_ofList]

end Record

/-- The response of a record ends in its ground truth, trimmed, between answer tags. Normalising the
newlines of the ground truth has nothing left to do, trimmed or not; and the last answer of the response
tells the same identities as the ground truth, unless that holds an answer tag itself. -/
theorem response_agrees_with_truth (row : Json.Members) (split : Split) (index : Nat)
    {truth response : List Char}
    (solution : (Record.ofRow row split index).truth.solution.toList = truth)
    (content : (Record.ofRow row split index).response.content.toList = response) :
    (∃ front, response = front ++ (Tag.answer.text ++ trim truth ++ Tag.endAnswer.text)) ∧
    (Occurs escapedNewline truth → '\n' ∈ truth) ∧
    normalizeNewlines truth = truth ∧ normalizeNewlines (trim truth) = trim truth ∧
    (¬ Occurs Tag.answer.text truth → ¬ Occurs Tag.endAnswer.text truth →
      (∃ block, IsLastBlock response block) ∧
      ∀ block, IsLastBlock response block → trueIdentities block = trueIdentities truth) := by
  rw [Record.toList_content_ofRow, solution] at content
  rw [Record.toList_solution_ofRow] at solution
  have settled : normalizeNewlines (trim truth) = trim truth := by
    rw [← solution]
    exact normalizeNewlines_trim _
  refine ⟨⟨Tag.think.text ++ (Record.explanation row).reasoning ++ Tag.endThink.text, ?_⟩, ?_, ?_,
    settled, fun free endFree => ?_⟩
  · rw [← content, referenceResponse, settled]
    simp only [List.append_assoc]
  · rw [← solution]
    exact settled_normalizeNewlines _
  · rw [← solution]
    exact normalizeNewlines_normalizeNewlines _
  · have last : IsLastBlock response (trim truth) := by
      rw [← content, ← settled]
      apply isLastBlock_referenceResponse <;> rw [settled]
      · exact fun occurs => free occurs.of_trim
      · exact fun occurs => endFree occurs.of_trim
    refine ⟨⟨_, last⟩, fun block isLast => ?_⟩
    rw [isLast.unique last, trueIdentities_eq, trueIdentities_eq, toldIn_normalizeNewlines_trim]
    rw [← solution]
    exact not_loose_normalizeNewlines_trim _

def quotingRow : Json.Members :=
  [("cot_head", .str "Say <answer>B</answer> first."),
   ("solution_text_format", .str " (1) A is a knight\\n(2) B is a knave\\n")]

theorem response_agrees_with_truth_of_quote :
    (Record.ofRow quotingRow .train 0).truth.solution.toList =
      "(1) A is a knight\n(2) B is a knave\n".toList ∧
    (∃ front, (Record.ofRow quotingRow .train 0).response.content.toList =
      front ++ "<answer>(1) A is a knight\n(2) B is a knave</answer>".toList) ∧
    ∃ block, IsLastBlock (Record.ofRow quotingRow .train 0).response.content.toList block ∧
      trueIdentities block = [("A", .knight), ("B", .knave)] := by
  have solution : (Record.ofRow quotingRow .train 0).truth.solution.toList =
      "(1) A is a knight\n(2) B is a knave\n".toList := by decide +kernel
  obtain ⟨⟨front, ends⟩, -, -, -, same⟩ :=
    response_agrees_with_truth quotingRow .train 0 solution rfl
  obtain ⟨⟨block, last⟩, told⟩ := same (by decide +kernel) (by decide +kernel)
  refine ⟨solution, ⟨front, ends.trans ?_⟩, block, last, (told block last).trans (by decide +kernel)⟩
  exact congrArg (front ++ ·) (by decide +kernel)

end PuzzlePrep

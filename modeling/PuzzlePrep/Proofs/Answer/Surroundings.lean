import Mathlib
import PuzzlePrep.Proofs.Answer.RewardTable
import PuzzlePrep.Proofs.Text.Erase
import PuzzlePrep.Record.OfRow

namespace PuzzlePrep

open Text

/-- Real newlines stand around the text only, and inside it newlines are written. -/
def Loose (text : List Char) : Prop :=
  '\n' ∈ text ∧ '\n' ∉ trim text ∧ Occurs escapedNewline (trim text)

instance : DecidablePred Loose := fun text =>
  inferInstanceAs
    (Decidable ('\n' ∈ text ∧ '\n' ∉ trim text ∧ Occurs escapedNewline (trim text)))

section Loose

variable {text : List Char}

theorem toldIn_normalizeNewlines_trim (tight : ¬ Loose text) :
    toldIn (normalizeNewlines (trim text)) = toldIn (normalizeNewlines text) := by
  by_cases inside : '\n' ∈ trim text
  · rw [normalizeNewlines_of_mem inside, normalizeNewlines_of_mem (trim_subset text inside),
      toldIn_trim]
  · rw [normalizeNewlines_of_not_mem inside]
    by_cases around : '\n' ∈ text
    · have none : ¬ Occurs escapedNewline (trim text) :=
        fun written => tight ⟨around, inside, written⟩
      rw [unescapeNewlines_of_not_occurs none, normalizeNewlines_of_mem around, toldIn_trim]
    · rw [normalizeNewlines_of_not_mem around, ← toldIn_trim, trim_unescapeNewlines_trim,
        toldIn_trim]

/-- A loose text is read as the one line that it is without the blanks around it. -/
theorem trueIdentities_of_loose (loose : Loose text) :
    trueIdentities text = (identityOf? (trim text)).toList := by
  obtain ⟨around, inside, -⟩ := loose
  have single : toldIn text = (identityOf? (trim text)).toList := by
    rw [← toldIn_trim, toldIn, lines_of_whole inside, List.filterMap_cons, trim_trim]
    cases identityOf? (trim text) <;> rfl
  rw [trueIdentities_eq, normalizeNewlines_of_mem around, single]
  cases identityOf? (trim text) <;> rfl

theorem trueIdentities_trim_of_loose (loose : Loose text) : trueIdentities (trim text) =
    Identities.noteAll [] (toldIn (unescapeNewlines (trim text))) := by
  rw [trueIdentities_eq, normalizeNewlines_of_not_mem loose.2.1]

theorem not_loose_normalizeNewlines_trim (text : List Char) :
    ¬ Loose (normalizeNewlines (trim text)) := by
  rintro ⟨around, inside, written⟩
  by_cases settled : Settled (trim text)
  · rw [normalizeNewlines_of_settled settled] at around inside
    rw [trim_trim] at inside
    exact inside around
  · rw [normalizeNewlines_of_not_settled settled] at written
    exact not_occurs_unescapeNewlines _ written.of_trim

end Loose

theorem Reward.of_congr {truth truth' : List Char}
    (same : trueIdentities truth = trueIdentities truth') (response : List Char) :
    Reward.of response truth = Reward.of response truth' := by
  simp only [Reward.of, same]

/-- Trimming a ground truth that is not loose changes no identity and no reward. A loose one tells
what its one line tells, and trimmed what the lines tell that are written in it. The solution of a
record is not loose. -/
theorem trueIdentities_trim (text : List Char) :
    (¬ Loose text → trueIdentities (trim text) = trueIdentities text ∧
      ∀ response, Reward.of response (trim text) = Reward.of response text) ∧
    (Loose text → trueIdentities text = (identityOf? (trim text)).toList ∧
      trueIdentities (trim text) =
        Identities.noteAll [] (toldIn (unescapeNewlines (trim text)))) ∧
    ∀ row split index, (Record.ofRow row split index).truth.solution.toList = text →
      ¬ Loose text := by
  refine ⟨fun tight => ?_, fun loose => ?_, ?_⟩
  · have same : trueIdentities (trim text) = trueIdentities text := by
      rw [trueIdentities_eq, toldIn_normalizeNewlines_trim tight, trueIdentities_eq]
    exact ⟨same, Reward.of_congr same⟩
  · exact ⟨trueIdentities_of_loose loose, trueIdentities_trim_of_loose loose⟩
  · rintro row split index rfl
    simp only [Record.ofRow, String.toList_ofList]
    exact not_loose_normalizeNewlines_trim _

theorem trueIdentities_trim_of_three :
    trueIdentities (trim " Al is a knight\\nBo is a knave\t".toList) =
        trueIdentities " Al is a knight\\nBo is a knave\t".toList ∧
      trueIdentities "\nAl is a knight\\nBo is a knave".toList =
        (identityOf? (trim "\nAl is a knight\\nBo is a knave".toList)).toList ∧
      ¬ Loose (Record.ofRow [("solution_text_format", .str " Al is a knight\\n")]
        .train 0).truth.solution.toList := by
  obtain ⟨tight, -, -⟩ := trueIdentities_trim " Al is a knight\\nBo is a knave\t".toList
  obtain ⟨-, loose, -⟩ := trueIdentities_trim "\nAl is a knight\\nBo is a knave".toList
  obtain ⟨-, -, records⟩ := trueIdentities_trim (Record.ofRow
    [("solution_text_format", .str " Al is a knight\\n")] .train 0).truth.solution.toList
  exact ⟨(tight (by decide_cbv)).1, (loose (by decide_cbv)).1, records _ _ _ rfl⟩

/-- The newline at the end keeps the one inside from being read, and with it the second identity. -/
theorem trueIdentities_misses_written_line :
    trueIdentities "A is a knight\\nB is a knave\n".toList = [("A", .knight)] ∧
      trueIdentities (trim "A is a knight\\nB is a knave\n".toList) =
        [("A", .knight), ("B", .knave)] ∧
      Reward.of "<think></think><answer>A is a knight</answer>".toList
        "A is a knight\\nB is a knave\n".toList = ⟨1, 2, 3⟩ ∧
      Reward.of "<think></think><answer>A is a knight</answer>".toList
        (trim "A is a knight\\nB is a knave\n".toList) = ⟨1, -2, -1⟩ := by
  decide_cbv

end PuzzlePrep

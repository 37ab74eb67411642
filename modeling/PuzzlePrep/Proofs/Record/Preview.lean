import Mathlib.Data.List.Nodup
import PuzzlePrep.Proofs.Answer.Line
import PuzzlePrep.Proofs.Answer.RewardTable
import PuzzlePrep.Record.OfRow

namespace PuzzlePrep

open Text

/-- No two lines of the answer have the same name, whatever the case of its letters. -/
def NamesApart (answer : List Char) : Prop :=
  ((answerEntries answer).map fun e => e.1.map fold).Nodup

section Answer

variable {n : Nat} {answer : List Char}

theorem answerEntries_trim (answer : List Char) :
    answerEntries (trim answer) = answerEntries answer := by
  rw [answerEntries, trim_trim, answerEntries]

theorem answerEntries_ne_nil (valid : isAnswer n answer = true) : answerEntries answer ≠ [] := by
  obtain ⟨line, rest, split⟩ := List.exists_cons_of_ne_nil (lines_ne_nil (trim answer))
  have formed := (isAnswer_iff.mp valid).2
  rw [split] at formed
  obtain ⟨⟨name, role, read⟩, -⟩ := answerLinesFrom_cons.mp formed
  rw [answerEntries, split, entriesFrom_cons read]
  exact List.cons_ne_nil _ _

theorem toldIn_of_isAnswer (valid : isAnswer n answer = true) : toldIn answer =
    (answerEntries answer).map fun (name, role) => (String.ofList name, role) := by
  rw [answerEntries, ← filterMap_identityOf?_lines (isAnswer_iff.mp valid).2]
  exact (filterMap_lines_trim rfl answer).symm

theorem isName_of_mem_answerEntries {name : List Char} {role : Role}
    (member : (name, role) ∈ answerEntries answer) : IsName name := by
  obtain ⟨⟨line, i⟩, -, read⟩ := List.mem_filterMap.mp member
  obtain ⟨b, phrase, r, -, -, isName, -⟩ := readAnswerLine?_eq_some_iff.mp read
  exact isName

theorem find?_of_namesApart {entries : List (List Char × Role)} {name : List Char} {role : Role}
    (apart : (entries.map fun e => e.1.map fold).Nodup) (member : (name, role) ∈ entries) :
    entries.find? (SameText name ·.1) = some (name, role) := by
  induction entries with
  | nil => cases member
  | cons first rest ih =>
    rw [List.map_cons, List.nodup_cons] at apart
    rcases List.mem_cons.mp member with rfl | member
    · simp [SameText.refl]
    · have other : ¬ SameText name first.1 := by
        intro same
        exact apart.1 (List.mem_map.mpr ⟨(name, role), member, same⟩)
      rw [List.find?_cons_of_neg (by simpa using other)]
      exact ih apart.2 member

theorem trueIdentities_of_isAnswer (settled : normalizeNewlines answer = answer)
    (valid : isAnswer n answer = true) (apart : NamesApart answer) : trueIdentities answer =
      (answerEntries answer).map fun (name, role) => (String.ofList name, role) := by
  rw [trueIdentities_eq, settled, toldIn_of_isAnswer valid]
  refine noteAll_of_nodup ?_
  rw [List.nil_append, List.map_map]
  refine List.Nodup.of_map (fun name => name.toList.map fold) ?_
  rw [List.map_map]
  simpa [NamesApart, Function.comp_def] using apart

/-- With names apart the leftmost statement of every name is the one on its line. -/
theorem leftmostStatement_of_isAnswer (valid : isAnswer n answer = true)
    (apart : NamesApart answer) : ∀ e ∈ answerEntries answer,
      LeftmostStatement e.1 e.2 (trim answer) := by
  rintro ⟨name, role⟩ member
  have isName := isName_of_mem_answerEntries member
  rw [← statedRole?_eq_some_iff isName, ← join_lines (trim answer),
    statedRole?_join_lines isName (isAnswer_iff.mp valid).2]
  rw [show entriesFrom 1 (lines (trim answer)) = answerEntries answer from rfl,
    find?_of_namesApart apart member]
  rfl

theorem Reward.eq_full {reward : Reward} (format : reward.format = 1) (total : reward.total = 3)
    (sum : reward.total = reward.format + reward.answer) : reward = ⟨1, 2, 3⟩ := by
  obtain ⟨f, ⟨halves⟩, t⟩ := reward
  dsimp only at format total sum
  subst format total
  have points : (6 : Int) = 2 + halves := congrArg Points.halves sum
  have two : halves = 4 := by omega
  subst two
  rfl

/-- A well-tagged response whose answer is the ground truth itself earns the full reward. -/
theorem reward_of_own_answer {response : List Char} (settled : normalizeNewlines answer = answer)
    (settledTrim : normalizeNewlines (trim answer) = trim answer)
    (valid : isAnswer n answer = true) (apart : NamesApart answer) (tagged : TagsOnce response)
    (isBlock : IsBlock response (trim answer)) : Reward.of response answer = ⟨1, 2, 3⟩ := by
  have truth := trueIdentities_of_isAnswer settled valid apart
  have some : trueIdentities answer ≠ [] := by
    rw [truth]
    simpa using answerEntries_ne_nil valid
  have read : answerText (trim answer) = trim answer := by
    rw [answerText, trim_trim, settledTrim]
  have right : ∀ x ∈ trueIdentities answer,
      LeftmostStatement x.1.toList x.2 (answerText (trim answer)) := by
    intro x member
    rw [truth] at member
    obtain ⟨e, inside, rfl⟩ := List.mem_map.mp member
    rw [read]
    simpa using leftmostStatement_of_isAnswer valid apart e inside
  have total : (Reward.of response answer).total = 3 :=
    RewardRow.total_of_holds some .allRight
      ⟨tagged, exists_isBlock_iff.mp ⟨_, isBlock⟩, _, isBlock, right⟩
  exact Reward.eq_full (format_of_tagged some tagged) total
    (total_eq_format_add_answer some response)

end Answer

namespace Record

variable (row : Json.Members) (split : Split) (index : Nat)

theorem toList_response :
    (ofRow row split index).response.content.toList =
      Tag.think.text ++ (explanation row).reasoning ++ Tag.endThink.text ++ Tag.answer.text ++
        trim (solutionIn row) ++ Tag.endAnswer.text := by
  have settled : normalizeNewlines (trim (solutionIn row)) = trim (solutionIn row) :=
    normalizeNewlines_trim _
  simp [ofRow, referenceResponse, settled]

theorem toList_truth :
    (ofRow row split index).truth.solution.toList = solutionIn row := by
  simp [ofRow]

/-- A record with a response in good order and an answer of the right form, which names no character
twice, earns the full reward for its own response. -/
theorem reward_of_clean_record {answer : List Char}
    (ordered : inGoodOrder (ofRow row split index).response.content.toList = true)
    (answered : firstAnswer? (ofRow row split index).response.content.toList = some answer)
    (valid : isAnswer (ofRow row split index).expectedLines answer = true)
    (apart : NamesApart answer) :
    Reward.of (ofRow row split index).response.content.toList
      (ofRow row split index).truth.solution.toList = ⟨1, 2, 3⟩ := by
  have isBlock : IsBlock (ofRow row split index).response.content.toList (trim (solutionIn row)) :=
    ⟨_, [], by rw [toList_response, List.append_nil]⟩
  have tagged : wellTagged (ofRow row split index).response.content.toList = true := by
    rw [inGoodOrder, Bool.and_eq_true] at ordered
    exact ordered.1
  have own : answer = trim (solutionIn row) := by
    simpa [firstAnswer?, answerBlocks_of_isBlock tagged isBlock] using answered.symm
  subst own
  rw [NamesApart, answerEntries_trim] at apart
  rw [isAnswer_iff, trim_trim, ← isAnswer_iff] at valid
  rw [toList_truth]
  exact reward_of_own_answer (normalizeNewlines_normalizeNewlines _) (normalizeNewlines_trim _)
    valid apart (wellTagged_iff_tagsOnce.mp tagged) isBlock

/-- A puzzle whose second character bears a word of the statements as a name, with a written newline
between the lines. -/
theorem reward_of_clean_record_of_two :
    Reward.of
        (ofRow [("names", .arr [.str "Zoey", .str "is"]),
          ("solution_text_format", .str "(1) Zoey is a knight\\n(2) is IS a knave ")]
          .train 0).response.content.toList
        (ofRow [("names", .arr [.str "Zoey", .str "is"]),
          ("solution_text_format", .str "(1) Zoey is a knight\\n(2) is IS a knave ")]
          .train 0).truth.solution.toList = ⟨1, 2, 3⟩ :=
  reward_of_clean_record _ .train 0 (by decide +kernel)
    (show firstAnswer? _ = some "(1) Zoey is a knight\n(2) is IS a knave".toList by decide +kernel)
    (by decide +kernel) (by unfold NamesApart; decide +kernel)

end Record

end PuzzlePrep

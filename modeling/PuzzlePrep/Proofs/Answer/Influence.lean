import Mathlib
import PuzzlePrep.Proofs.Answer.RewardTable
import PuzzlePrep.Proofs.Text.Lines

namespace PuzzlePrep

open Text

open Classical in
noncomputable def answerWorth (expected : Identities) (text : List Char) : Points :=
  if StatesAll expected text then
    if rightRoles expected text = expected.length then 2
    else if 0 < rightRoles expected text then -1 else Points.lessHalf (-1)
  else -2

theorem answerPoints_eq_answerWorth {expected stated : Identities} {text : List Char}
    (names : ∀ x ∈ expected, IsName x.1.toList)
    (read : statedIdentities? text (expected.map Prod.fst) = some stated) :
    Reward.answerPoints expected stated = answerWorth expected text := by
  have all : StatesAll expected text := (statesAll_iff_statedIdentities? names).mpr ⟨stated, read⟩
  rw [answerWorth, if_pos all, Reward.answerPoints, agreements_eq_rightRoles names read]

section Block

variable {truth response response' block block' : List Char}

theorem reward_of_block (some : trueIdentities truth ≠ []) (tagged : TagsOnce response)
    (isBlock : IsBlock response block) :
    Reward.of response truth =
      ⟨1, answerWorth (trueIdentities truth) (answerText block),
        1 + answerWorth (trueIdentities truth) (answerText block)⟩ := by
  have names := isName_of_trueIdentities truth
  by_cases all : StatesAll (trueIdentities truth) (answerText block)
  · obtain ⟨stated, read⟩ := (statesAll_iff_statedIdentities? names).mp all
    have read' := (statedIn?_of_block some names tagged isBlock).trans read
    simp only [Reward.of, List.isEmpty_iff, some, if_false, wellTagged_iff_tagsOnce.mpr tagged,
      if_true, read', answerPoints_eq_answerWorth names read]
  · rw [reward_of_not_statesAll some tagged isBlock all, answerWorth, if_neg all]
    rfl

theorem isBlock_unique (tagged : TagsOnce response) (isBlock : IsBlock response block)
    (isBlock' : IsBlock response block') : block = block' := by
  have tagged' := wellTagged_iff_tagsOnce.mpr tagged
  have same : [block] = [block'] :=
    (answerBlocks_of_isBlock tagged' isBlock).symm.trans (answerBlocks_of_isBlock tagged' isBlock')
  exact (List.cons.inj same).1

def AnswerClosesFirst (response : List Char) : Prop :=
  ∃ before before', OccursAt Tag.endAnswer.text before response ∧
    OccursAt Tag.answer.text before' response ∧ before.length < before'.length

theorem not_isBlock_of_closesFirst (tagged : TagsOnce response)
    (closes : AnswerClosesFirst response) : ¬ ∃ block, IsBlock response block := by
  rw [exists_isBlock_iff]
  rintro ⟨opening, ending, opened, closed, less⟩
  obtain ⟨ending', opening', closed', opened', less'⟩ := closes
  have sameOpening : opening = opening' := (tagged .answer).unique opened opened'
  have sameEnding : ending = ending' := (tagged .endAnswer).unique closed closed'
  subst sameOpening sameEnding
  omega

theorem reward_of_equal_blocks (tagged : TagsOnce response) (tagged' : TagsOnce response')
    (isBlock : IsBlock response block) (isBlock' : IsBlock response' block')
    (same : trim block = trim block') (truth : List Char) :
    Reward.of response truth = Reward.of response' truth := by
  by_cases some : trueIdentities truth = []
  · rw [reward_of_no_truth some, reward_of_no_truth some]
  · have read : answerText block = answerText block' := by rw [answerText, same, answerText]
    rw [reward_of_block some tagged isBlock, reward_of_block some tagged' isBlock', read]

/-- Nothing but the block counts: a well-tagged response whose answer opens before it ends has one
block, and responses with equal blocks are worth the same, whatever stands around them. Without a
block the tags alone decide. -/
theorem reward_of_same_block (truth : List Char) :
    (∀ response, TagsOnce response → AnswerOpensFirst response →
      ∃! block, IsBlock response block) ∧
    (∀ response response' block block', TagsOnce response → TagsOnce response' →
      IsBlock response block → IsBlock response' block' → trim block = trim block' →
      Reward.of response truth = Reward.of response' truth) ∧
    (trueIdentities truth ≠ [] → ∀ response,
      (TagsOnce response → AnswerClosesFirst response → Reward.of response truth = ⟨1, -2, -1⟩) ∧
      (¬ TagsOnce response → Reward.of response truth = ⟨-1, -2, -3⟩)) := by
  refine ⟨?_, ?_, fun some response => ⟨?_, reward_of_bad_tags some⟩⟩
  · intro response tagged opens
    obtain ⟨block, isBlock⟩ := exists_isBlock_iff.mpr opens
    exact ⟨block, isBlock, fun block' isBlock' => isBlock_unique tagged isBlock' isBlock⟩
  · intro response response' block block' tagged tagged' isBlock isBlock' same
    exact reward_of_equal_blocks tagged tagged' isBlock isBlock' same truth
  · intro tagged closes
    exact reward_of_unstated some tagged
      (statedIn?_of_no_block tagged (not_isBlock_of_closesFirst tagged closes))

/-- The parts in either order, with a statement in the reasoning that the block contradicts. -/
theorem reward_of_same_block_swapped :
    Reward.of "<think>Zoey is a knave</think><answer>Zoey is a knight</answer>".toList
        "(1) Zoey is a knight".toList =
      Reward.of "so <answer>\nZoey is a knight </answer> or <think></think>".toList
        "(1) Zoey is a knight".toList :=
  (reward_of_same_block _).2.1 _ _ "Zoey is a knight".toList "\nZoey is a knight ".toList
    (wellTagged_iff_tagsOnce.mp (by decide_cbv))
    (wellTagged_iff_tagsOnce.mp (by decide_cbv))
    ⟨"<think>Zoey is a knave</think>".toList, [], by decide_cbv⟩
    ⟨"so ".toList, " or <think></think>".toList, by decide_cbv⟩ (by decide_cbv)

end Block

section Lines

variable {lines lines' : List (List Char)} {expected expected' : Identities}

def TellApart (lines : List (List Char)) : Prop :=
  lines.Pairwise fun line line' =>
    ∀ x ∈ identityOf? (trim line), ∀ y ∈ identityOf? (trim line'), x.1 ≠ y.1

theorem tellApart_iff : TellApart lines ↔
    ((lines.filterMap (identityOf? <| trim ·)).map Prod.fst).Nodup := by
  rw [List.Nodup, List.pairwise_map, List.pairwise_filterMap]
  exact Iff.rfl

theorem TellApart.perm (apart : TellApart lines) (same : lines.Perm lines') : TellApart lines' := by
  rw [tellApart_iff] at apart ⊢
  exact ((same.filterMap _).map _).nodup_iff.mp apart

theorem mem_join {sep : List Char} {c : Char} (some : c ∈ sep) (several : 2 ≤ lines.length) :
    c ∈ join sep lines := by
  match lines, several with
  | line :: line' :: rest, _ => simp [join, some]

theorem trueIdentities_join (several : 2 ≤ lines.length) (whole : ∀ line ∈ lines, '\n' ∉ line)
    (apart : TellApart lines) :
    trueIdentities (join ['\n'] lines) = lines.filterMap (identityOf? <| trim ·) := by
  -- The newline between two lines keeps those that are written in them as they are.
  have settled : normalizeNewlines (join ['\n'] lines) = join ['\n'] lines :=
    normalizeNewlines_of_settled fun _ => mem_join List.mem_cons_self several
  have pieces : Text.lines (join ['\n'] lines) = lines := by
    refine pieces_join ?_ whole
    rintro rfl
    exact absurd several (by decide)
  rw [trueIdentities_eq, settled, toldIn, pieces]
  exact noteAll_of_nodup (tellApart_iff.mp apart)

theorem statesAll_perm (same : expected.Perm expected') {text : List Char} :
    StatesAll expected text ↔ StatesAll expected' text :=
  forall_congr' fun _ => imp_congr_left same.mem_iff

theorem answerWorth_perm (same : expected.Perm expected') (text : List Char) :
    answerWorth expected text = answerWorth expected' text := by
  have right : rightRoles expected text = rightRoles expected' text := same.countP_eq _
  by_cases all : StatesAll expected text
  · have all' : StatesAll expected' text := (statesAll_perm same).mp all
    rw [answerWorth, answerWorth, if_pos all, if_pos all', right, same.length_eq]
  · have none : ¬ StatesAll expected' text := fun all' => all ((statesAll_perm same).mpr all')
    rw [answerWorth, answerWorth, if_neg all, if_neg none]

theorem reward_of_perm {truth truth' : List Char}
    (same : (trueIdentities truth).Perm (trueIdentities truth')) (response : List Char) :
    Reward.of response truth = Reward.of response truth' := by
  by_cases none : trueIdentities truth = []
  · have none' : trueIdentities truth' = [] := List.perm_nil.mp (none ▸ same.symm)
    rw [reward_of_no_truth none, reward_of_no_truth none']
  · have some' : trueIdentities truth' ≠ [] := fun none' => none (List.perm_nil.mp (none' ▸ same))
    by_cases tagged : TagsOnce response
    · by_cases answered : ∃ block, IsBlock response block
      · obtain ⟨block, isBlock⟩ := answered
        rw [reward_of_block none tagged isBlock, reward_of_block some' tagged isBlock,
          answerWorth_perm same]
      · rw [reward_of_unstated none tagged (statedIn?_of_no_block tagged answered),
          reward_of_unstated some' tagged (statedIn?_of_no_block tagged answered)]
    · rw [reward_of_bad_tags none tagged, reward_of_bad_tags some' tagged]

/-- The lines of a ground truth may come in any order, with lines among them that tell nothing. -/
theorem reward_of_reordered_truth (response : List Char) (several : 2 ≤ lines.length)
    (whole : ∀ line ∈ lines, '\n' ∉ line) (apart : TellApart lines) (same : lines.Perm lines') :
    Reward.of response (join ['\n'] lines) = Reward.of response (join ['\n'] lines') := by
  have whole' : ∀ line ∈ lines', '\n' ∉ line := fun line member =>
    whole line (same.mem_iff.mpr member)
  apply reward_of_perm
  rw [trueIdentities_join several whole apart,
    trueIdentities_join (same.length_eq ▸ several) whole' (apart.perm same)]
  exact same.filterMap _

/-- A written newline inside a line stays where it is, behind the name and before the role. -/
theorem reward_of_reordered_truth_of_three :
    Reward.of "<think></think><answer>Ed is a knave. Al is a knight</answer>".toList
        (join ['\n'] ["Al is a knight".toList, "--".toList, "Ed\\n is a knave".toList]) =
      Reward.of "<think></think><answer>Ed is a knave. Al is a knight</answer>".toList
        (join ['\n'] ["Ed\\n is a knave".toList, "Al is a knight".toList, "--".toList]) :=
  reward_of_reordered_truth _ (by decide) (by decide_cbv)
    (by unfold TellApart; decide_cbv) (by decide_cbv)

end Lines

end PuzzlePrep

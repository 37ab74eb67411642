import Mathlib.Data.List.Forall2
import PuzzlePrep.Answer.Reward
import PuzzlePrep.Proofs.Answer.Block
import PuzzlePrep.Proofs.Answer.Truth

namespace PuzzlePrep

open Text

def TagsOnce (response : List Char) : Prop := ∀ t : Tag, ∃! before, OccursAt t.text before response

def answerText (block : List Char) : List Char := normalizeNewlines (trim block)

def SaysOf (name : List Char) (text : List Char) : Prop :=
  ∃ role before, StatementAt name role false before text

def StatesAll (expected : Identities) (text : List Char) : Prop :=
  ∀ x ∈ expected, SaysOf x.1.toList text

open Classical in
/-- How many of the expected roles the leftmost statements give. -/
noncomputable def rightRoles (expected : Identities) (text : List Char) : Nat :=
  expected.countP fun x => LeftmostStatement x.1.toList x.2 text

theorem wellTagged_iff_tagsOnce {response : List Char} :
    wellTagged response = true ↔ TagsOnce response := by
  rw [wellTagged_iff]
  exact forall_congr' fun t => countOf_eq_one_iff t.text_ne_nil

theorem exists_leftmostStatement {name text : List Char} (h : SaysOf name text) :
    ∃ role, LeftmostStatement name role text := by
  obtain ⟨role, before, found⟩ := h
  induction length : before.length using Nat.strongRecOn generalizing role before with
  | ind n ih =>
    by_cases first : ∀ role' before', StatementAt name role' false before' text →
        before.length ≤ before'.length
    · exact ⟨role, before, found, first⟩
    · simp only [not_forall, Nat.not_le] at first
      obtain ⟨role', before', found', shorter⟩ := first
      exact ih _ (by omega) role' before' found' rfl

theorem saysOf_iff_statedRole? {name text : List Char} (hn : IsName name) :
    SaysOf name text ↔ ∃ role, statedRole? name false text = some role := by
  constructor
  · intro h
    obtain ⟨role, leftmost⟩ := exists_leftmostStatement h
    exact ⟨role, (statedRole?_eq_some_iff hn).mpr leftmost⟩
  · rintro ⟨role, read⟩
    obtain ⟨before, found, -⟩ := (statedRole?_eq_some_iff hn).mp read
    exact ⟨role, before, found⟩

theorem statedIdentities?_cons (answer : List Char) (name : String) (names : List String) :
    statedIdentities? answer (name :: names) =
      (statedRole? name.toList false answer).bind fun role =>
        (statedIdentities? answer names).map ((name, role) :: ·) := by
  rw [statedIdentities?, List.mapM_cons, ← statedIdentities?]
  cases statedRole? name.toList false answer with
  | none => rfl
  | some role => cases statedIdentities? answer names <;> rfl

theorem statesAll_cons {x : String × Role} {expected : Identities} {text : List Char} :
    StatesAll (x :: expected) text ↔ SaysOf x.1.toList text ∧ StatesAll expected text :=
  List.forall_mem_cons

theorem statesAll_iff_statedIdentities? {expected : Identities} {text : List Char}
    (names : ∀ x ∈ expected, IsName x.1.toList) : StatesAll expected text ↔
      ∃ stated, statedIdentities? text (expected.map Prod.fst) = some stated := by
  induction expected with
  | nil => simp [StatesAll, statedIdentities?]
  | cons x expected ih =>
    obtain ⟨head, tail⟩ := List.forall_mem_cons.mp names
    rw [statesAll_cons, saysOf_iff_statedRole? head, ih tail, List.map_cons,
      statedIdentities?_cons]
    constructor
    · rintro ⟨⟨role, read⟩, stated, others⟩
      exact ⟨(x.1, role) :: stated, by simp [read, others]⟩
    · rintro ⟨stated, read⟩
      obtain ⟨role, first, found⟩ := Option.bind_eq_some_iff.mp read
      obtain ⟨others, rest, -⟩ := Option.map_eq_some_iff.mp found
      exact ⟨⟨role, first⟩, others, rest⟩

theorem rightRoles_cons (x : String × Role) (expected : Identities) (text : List Char)
    [Decidable (LeftmostStatement x.1.toList x.2 text)] :
    rightRoles (x :: expected) text =
      rightRoles expected text + if LeftmostStatement x.1.toList x.2 text then 1 else 0 := by
  simp only [rightRoles, List.countP_cons, decide_eq_true_eq]

/-- Where all names are stated, the roles that agree are the right ones. -/
theorem agreements_eq_rightRoles {expected stated : Identities} {text : List Char}
    (names : ∀ x ∈ expected, IsName x.1.toList)
    (read : statedIdentities? text (expected.map Prod.fst) = some stated) :
    Reward.agreements expected stated = rightRoles expected text := by
  classical
  induction expected generalizing stated with
  | nil => rfl
  | cons x expected ih =>
    obtain ⟨head, tail⟩ := List.forall_mem_cons.mp names
    rw [List.map_cons, statedIdentities?_cons] at read
    obtain ⟨role, first, found⟩ := Option.bind_eq_some_iff.mp read
    obtain ⟨others, rest, rfl⟩ := Option.map_eq_some_iff.mp found
    have right : LeftmostStatement x.1.toList x.2 text ↔ x.2 = role := by
      rw [← statedRole?_eq_some_iff head, first, Option.some.injEq, eq_comm]
    rw [rightRoles_cons, ← ih tail rest, Reward.agreements, List.zip_cons_cons, List.countP_cons]
    simp only [right, beq_iff_eq]
    rfl

theorem rightRoles_eq_length_iff {expected : Identities} {text : List Char} :
    rightRoles expected text = expected.length ↔
      ∀ x ∈ expected, LeftmostStatement x.1.toList x.2 text := by
  classical
  simp [rightRoles, List.countP_eq_length]

theorem rightRoles_le_length (expected : Identities) (text : List Char) :
    rightRoles expected text ≤ expected.length := List.countP_le_length

theorem LeftmostStatement.saysOf {name text : List Char} {role : Role}
    (h : LeftmostStatement name role text) : SaysOf name text := by
  obtain ⟨before, found, -⟩ := h
  exact ⟨role, before, found⟩

theorem not_saysOf_nil {name : List Char} (hn : IsName name) : ¬ SaysOf name [] := by
  rintro ⟨role, before, found⟩
  exact not_statementAt_nil hn found

theorem statedIn?_of_block {expected : Identities} {response block : List Char}
    (some : expected ≠ []) (names : ∀ x ∈ expected, IsName x.1.toList)
    (tagged : TagsOnce response) (isBlock : IsBlock response block) :
    Reward.statedIn? expected response =
      statedIdentities? (answerText block) (expected.map Prod.fst) := by
  have tagged' := wellTagged_iff_tagsOnce.mpr tagged
  have last : lastAnswer? response = Option.some (answerText block) :=
    (lastAnswer?_of_wellTagged tagged' _).mpr ⟨block, isBlock, rfl⟩
  rw [Reward.statedIn?, if_pos tagged', Reward.answerIn?, last]
  cases empty : answerText block with
  | cons c text => rfl
  | nil =>
    obtain ⟨x, expected, rfl⟩ := List.exists_cons_of_ne_nil some
    rw [List.map_cons, statedIdentities?_cons]
    rfl

theorem statedIn?_of_no_block {expected : Identities} {response : List Char}
    (tagged : TagsOnce response) (none : ¬ ∃ block, IsBlock response block) :
    Reward.statedIn? expected response = Option.none := by
  have tagged' := wellTagged_iff_tagsOnce.mpr tagged
  have last : lastAnswer? response = Option.none := by
    cases h : lastAnswer? response with
    | none => rfl
    | some text =>
      obtain ⟨block, isBlock, -⟩ := (lastAnswer?_of_wellTagged tagged' _).mp h
      exact absurd ⟨block, isBlock⟩ none
  rw [Reward.statedIn?, if_pos tagged', Reward.answerIn?, last]
  rfl

section Rows

variable {truth response block : List Char}

theorem reward_of_no_truth (empty : trueIdentities truth = []) :
    Reward.of response truth = ⟨0, 0, -3⟩ := by
  simp [Reward.of, empty, Reward.unreadableTruth]

theorem reward_of_bad_tags (some : trueIdentities truth ≠ []) (bad : ¬ TagsOnce response) :
    Reward.of response truth = ⟨-1, -2, -3⟩ := by
  have untagged : wellTagged response = false := by
    rw [← wellTagged_iff_tagsOnce] at bad
    simpa using bad
  simp only [Reward.of, List.isEmpty_iff, some, if_false, untagged, Reward.statedIn?,
    Bool.false_eq_true]
  rfl

theorem reward_of_unstated (some : trueIdentities truth ≠ []) (tagged : TagsOnce response)
    (none : Reward.statedIn? (trueIdentities truth) response = Option.none) :
    Reward.of response truth = ⟨1, -2, -1⟩ := by
  simp only [Reward.of, List.isEmpty_iff, some, if_false, wellTagged_iff_tagsOnce.mpr tagged,
    if_true, none]
  rfl

/-- With all names stated the points hang on the number of right roles alone. -/
theorem reward_of_stated (some : trueIdentities truth ≠ []) (tagged : TagsOnce response)
    (isBlock : IsBlock response block)
    (stated : StatesAll (trueIdentities truth) (answerText block)) :
    (Reward.of response truth).total =
      let right := rightRoles (trueIdentities truth) (answerText block)
      if right = (trueIdentities truth).length then 3
      else if 0 < right then 0 else Points.lessHalf 0 := by
  have names := isName_of_trueIdentities truth
  obtain ⟨roles, read⟩ := (statesAll_iff_statedIdentities? names).mp stated
  have read' := (statedIn?_of_block some names tagged isBlock).trans read
  simp only [Reward.of, List.isEmpty_iff, some, if_false, wellTagged_iff_tagsOnce.mpr tagged,
    if_true, read', Reward.answerPoints, agreements_eq_rightRoles names read]
  split
  · rfl
  · split <;> rfl

theorem reward_of_not_statesAll (some : trueIdentities truth ≠ []) (tagged : TagsOnce response)
    (isBlock : IsBlock response block)
    (unstated : ¬ StatesAll (trueIdentities truth) (answerText block)) :
    Reward.of response truth = ⟨1, -2, -1⟩ := by
  have names := isName_of_trueIdentities truth
  apply reward_of_unstated some tagged
  rw [statedIn?_of_block some names tagged isBlock]
  cases read : statedIdentities? (answerText block) ((trueIdentities truth).map Prod.fst) with
  | none => rfl
  | some roles => exact absurd ((statesAll_iff_statedIdentities? names).mpr ⟨roles, read⟩) unstated

theorem format_of_tagged (some : trueIdentities truth ≠ []) (tagged : TagsOnce response) :
    (Reward.of response truth).format = 1 := by
  simp [Reward.of, some, wellTagged_iff_tagsOnce.mpr tagged]

theorem total_eq_format_add_answer (some : trueIdentities truth ≠ []) (response : List Char) :
    (Reward.of response truth).total =
      (Reward.of response truth).format + (Reward.of response truth).answer := by
  simp [Reward.of, some]

end Rows

inductive RewardRow
  | allRight
  | someRight
  | noneRight
  | unanswered
  | badTags

namespace RewardRow

def total : RewardRow → Points
  | allRight => 3
  | someRight => 0
  | noneRight => .lessHalf 0
  | unanswered => -1
  | badTags => -3

def Holds (expected : Identities) (response : List Char) : RewardRow → Prop
  | allRight => TagsOnce response ∧ AnswerOpensFirst response ∧ ∃ block, IsBlock response block ∧
      ∀ x ∈ expected, LeftmostStatement x.1.toList x.2 (answerText block)
  | someRight => TagsOnce response ∧ ∃ block, IsBlock response block ∧
      StatesAll expected (answerText block) ∧ 1 ≤ rightRoles expected (answerText block) ∧
      rightRoles expected (answerText block) ≤ expected.length - 1
  | noneRight => TagsOnce response ∧ ∃ block, IsBlock response block ∧
      StatesAll expected (answerText block) ∧ rightRoles expected (answerText block) = 0
  | unanswered => TagsOnce response ∧ ((¬ ∃ block, IsBlock response block) ∨
      ∃ block, IsBlock response block ∧
        (answerText block = [] ∨ ∃ x ∈ expected, ¬ SaysOf x.1.toList (answerText block)))
  | badTags => ¬ TagsOnce response

theorem total_injective {row row' : RewardRow} (h : row.total = row'.total) : row = row' := by
  cases row <;> cases row' <;> first | rfl | exact absurd h (by decide)

variable {truth response : List Char}

theorem exists_holds (some : trueIdentities truth ≠ []) (response : List Char) :
    ∃ row : RewardRow, row.Holds (trueIdentities truth) response := by
  by_cases tagged : TagsOnce response
  · by_cases answered : ∃ block, IsBlock response block
    · obtain ⟨block, isBlock⟩ := answered
      by_cases stated : StatesAll (trueIdentities truth) (answerText block)
      · have most := rightRoles_le_length (trueIdentities truth) (answerText block)
        have length := List.length_pos_iff.mpr some
        by_cases whole : rightRoles (trueIdentities truth) (answerText block) =
            (trueIdentities truth).length
        · exact ⟨allRight, tagged, exists_isBlock_iff.mp ⟨block, isBlock⟩, block, isBlock,
            rightRoles_eq_length_iff.mp whole⟩
        · by_cases zero : rightRoles (trueIdentities truth) (answerText block) = 0
          · exact ⟨noneRight, tagged, block, isBlock, stated, zero⟩
          · exact ⟨someRight, tagged, block, isBlock, stated, by omega, by omega⟩
      · simp only [StatesAll, not_forall] at stated
        obtain ⟨x, member, unstated⟩ := stated
        exact ⟨unanswered, tagged, Or.inr ⟨block, isBlock, Or.inr ⟨x, member, unstated⟩⟩⟩
    · exact ⟨unanswered, tagged, Or.inl answered⟩
  · exact ⟨badTags, tagged⟩

theorem total_of_holds (some : trueIdentities truth ≠ []) (row : RewardRow)
    (holds : row.Holds (trueIdentities truth) response) :
    (Reward.of response truth).total = row.total := by
  have length := List.length_pos_iff.mpr some
  cases row with
  | allRight =>
    obtain ⟨tagged, -, block, isBlock, right⟩ := holds
    rw [reward_of_stated some tagged isBlock fun x member => (right x member).saysOf]
    simp only [rightRoles_eq_length_iff.mpr right, if_true]
    rfl
  | someRight =>
    obtain ⟨tagged, block, isBlock, stated, low, high⟩ := holds
    rw [reward_of_stated some tagged isBlock stated]
    dsimp only
    rw [if_neg (by omega), if_pos (by omega)]
    rfl
  | noneRight =>
    obtain ⟨tagged, block, isBlock, stated, zero⟩ := holds
    rw [reward_of_stated some tagged isBlock stated]
    dsimp only
    rw [if_neg (by omega), if_neg (by omega)]
    rfl
  | unanswered =>
    obtain ⟨tagged, none | ⟨block, isBlock, missing⟩⟩ := holds
    · rw [reward_of_unstated some tagged (statedIn?_of_no_block tagged none)]
      rfl
    · rw [reward_of_not_statesAll some tagged isBlock]
      · rfl
      · intro stated
        rcases missing with empty | ⟨x, member, unstated⟩
        · obtain ⟨x, member⟩ := List.exists_mem_of_ne_nil _ some
          have said := stated x member
          rw [empty] at said
          exact not_saysOf_nil (isName_of_trueIdentities truth x member) said
        · exact unstated (stated x member)
  | badTags =>
    rw [reward_of_bad_tags some holds]
    rfl

theorem total_eq_iff (some : trueIdentities truth ≠ []) (row : RewardRow) :
    (Reward.of response truth).total = row.total ↔ row.Holds (trueIdentities truth) response := by
  constructor
  · intro same
    obtain ⟨row', holds⟩ := exists_holds some response
    rw [total_of_holds some row' holds] at same
    rwa [← total_injective same]
  · exact total_of_holds some row

end RewardRow

section Order

variable {truth response response' block block' : List Char}

theorem format_eq_iff (some : trueIdentities truth ≠ []) (response : List Char) :
    ((Reward.of response truth).format = 1 ↔ TagsOnce response) ∧
      ((Reward.of response truth).format = -1 ↔ ¬ TagsOnce response) := by
  by_cases tagged : TagsOnce response
  · rw [format_of_tagged some tagged]
    exact ⟨by simp [tagged], ⟨fun same => absurd same (by decide), fun bad => absurd tagged bad⟩⟩
  · rw [reward_of_bad_tags some tagged]
    exact ⟨⟨fun same => absurd same (by decide), fun good => absurd good tagged⟩, by simp [tagged]⟩

theorem total_le_of_rightRoles_le (some : trueIdentities truth ≠ [])
    (tagged : TagsOnce response) (isBlock : IsBlock response block)
    (stated : StatesAll (trueIdentities truth) (answerText block))
    (tagged' : TagsOnce response') (isBlock' : IsBlock response' block')
    (stated' : StatesAll (trueIdentities truth) (answerText block'))
    (more : rightRoles (trueIdentities truth) (answerText block) ≤
      rightRoles (trueIdentities truth) (answerText block')) :
    (Reward.of response truth).total.halves ≤ (Reward.of response' truth).total.halves := by
  have most := rightRoles_le_length (trueIdentities truth) (answerText block')
  rw [reward_of_stated some tagged isBlock stated, reward_of_stated some tagged' isBlock' stated']
  dsimp only
  by_cases whole : rightRoles (trueIdentities truth) (answerText block) =
      (trueIdentities truth).length
  · have whole' : rightRoles (trueIdentities truth) (answerText block') =
        (trueIdentities truth).length := by omega
    simp [whole, whole']
  · rw [if_neg whole]
    split <;> split
    · decide
    · rename_i some _
      have right := Nat.lt_of_lt_of_le some more
      simp only [if_pos right, Int.le_refl]
    · decide
    · split <;> decide

theorem total_lt_of_tagsOnce (some : trueIdentities truth ≠ []) (tagged : TagsOnce response)
    (bad : ¬ TagsOnce response') :
    (Reward.of response' truth).total.halves < (Reward.of response truth).total.halves := by
  obtain ⟨row, holds⟩ := RewardRow.exists_holds some response
  rw [reward_of_bad_tags some bad, RewardRow.total_of_holds some row holds]
  cases row with
  | badTags => exact absurd tagged holds
  | _ => decide

end Order

/-- The whole table: without a readable truth nothing is scored, and otherwise every response falls
into the row that its tags, its block and its stated roles give. -/
theorem reward_table (truth : List Char) :
    (trueIdentities truth = [] → ∀ response, Reward.of response truth = ⟨0, 0, -3⟩) ∧
    (trueIdentities truth ≠ [] →
      (∀ response,
        ((Reward.of response truth).format = 1 ↔ TagsOnce response) ∧
        ((Reward.of response truth).format = -1 ↔ ¬ TagsOnce response) ∧
        (Reward.of response truth).total =
          (Reward.of response truth).format + (Reward.of response truth).answer ∧
        ∀ row : RewardRow, (Reward.of response truth).total = row.total ↔
          row.Holds (trueIdentities truth) response) ∧
      (∀ response block response' block', TagsOnce response → TagsOnce response' →
        IsBlock response block → IsBlock response' block' →
        StatesAll (trueIdentities truth) (answerText block) →
        StatesAll (trueIdentities truth) (answerText block') →
        rightRoles (trueIdentities truth) (answerText block) ≤
          rightRoles (trueIdentities truth) (answerText block') →
        (Reward.of response truth).total.halves ≤ (Reward.of response' truth).total.halves) ∧
      ∀ response response', TagsOnce response → ¬ TagsOnce response' →
        (Reward.of response' truth).total.halves < (Reward.of response truth).total.halves) := by
  refine ⟨fun empty response => reward_of_no_truth empty, fun some => ⟨?_, ?_, ?_⟩⟩
  · intro response
    obtain ⟨good, bad⟩ := format_eq_iff some response
    exact ⟨good, bad, total_eq_format_add_answer some response,
      RewardRow.total_eq_iff some⟩
  · intro response block response' block' tagged tagged' isBlock isBlock' stated stated' more
    exact total_le_of_rightRoles_le some tagged isBlock stated tagged' isBlock' stated' more
  · intro response response' tagged bad
    exact total_lt_of_tagsOnce some tagged bad

/-- A response with one role right and one wrong, against two lines of truth with a written newline
between them. -/
theorem reward_table_one_of_two :
    RewardRow.someRight.Holds
      (trueIdentities "(1) Zoey is a knight\\n(2) Oliver is a knave".toList)
      "<answer>Oliver is a KNIGHT, Zoey is a knight</answer><think>so</think>".toList :=
  (((reward_table _).2 (by decide +kernel)).1 _).2.2.2 .someRight |>.mp (by decide +kernel)

end PuzzlePrep

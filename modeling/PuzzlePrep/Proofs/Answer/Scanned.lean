import Mathlib
import PuzzlePrep.Proofs.Answer.Block

namespace PuzzlePrep

namespace Text

variable {word text : List Char} {pos i j : Nat}

def StandsAt (word text : List Char) (i : Nat) : Prop := word <+: text.drop i

structure IsNext (word text : List Char) (pos i : Nat) : Prop where
  behind : pos ≤ i
  stands : StandsAt word text i
  first : ∀ k, pos ≤ k → StandsAt word text k → i ≤ k

def between (text : List Char) (i j : Nat) : List Char := (text.drop i).take (j - i)

theorem IsNext.unique {k : Nat} (h : IsNext word text pos i) (h' : IsNext word text pos k) : i = k :=
  Nat.le_antisymm (h.first k h'.behind h'.stands) (h'.first i h.behind h.stands)

theorem StandsAt.lt_length (proper : word ≠ []) (h : StandsAt word text i) : i < text.length := by
  have short := h.length_le
  have positive := List.length_pos_iff.mpr proper
  rw [List.length_drop] at short
  omega

theorem standsAt_add_iff (proper : word ≠ []) (n : Nat) :
    StandsAt word text (pos + n) ↔ n < (text.drop pos).length ∧
      OccursAt word ((text.drop pos).take n) (text.drop pos) := by
  constructor
  · intro stands
    have inside := stands.lt_length proper
    obtain ⟨rest, split⟩ := stands
    refine ⟨by rw [List.length_drop]; omega, rest, ?_⟩
    rw [List.append_assoc, split, ← List.drop_drop, List.take_append_drop]
  · rintro ⟨inside, rest, split⟩
    refine ⟨rest, ?_⟩
    have front := List.take_append_drop n (text.drop pos)
    rw [← List.drop_drop]
    conv at split => lhs; rw [← front]
    rw [List.append_assoc] at split
    exact (List.append_cancel_left split).symm

theorem isNext_of_cutAt? (proper : word ≠ []) {before rest : List Char}
    (cut : cutAt? word (text.drop pos) = some (before, rest)) :
    IsNext word text pos (pos + before.length) ∧
      before = between text pos (pos + before.length) ∧
      rest = text.drop (pos + before.length + word.length) := by
  obtain ⟨split, first⟩ := (cutAt?_eq_some_iff proper).mp cut
  have front : (text.drop pos).take before.length = before := by
    rw [split, List.append_assoc, List.take_left]
  have shorter : before.length < (text.drop pos).length := by
    have positive := List.length_pos_iff.mpr proper
    rw [split, List.length_append, List.length_append]
    omega
  refine ⟨⟨Nat.le_add_right _ _, ?_, ?_⟩, ?_, ?_⟩
  · exact (standsAt_add_iff proper _).mpr ⟨shorter, rest, by rw [front]; exact split⟩
  · intro k behind stands
    obtain ⟨n, rfl⟩ := Nat.exists_eq_add_of_le behind
    obtain ⟨inside, occurs⟩ := (standsAt_add_iff proper n).mp stands
    have least := first _ occurs
    rw [List.length_take_of_le (Nat.le_of_lt inside)] at least
    omega
  · rw [between, Nat.add_sub_cancel_left, front]
  · rw [Nat.add_assoc, ← List.drop_drop, split, ← List.length_append, List.drop_left]

theorem not_standsAt_of_cutAt? (proper : word ≠ []) (none : cutAt? word (text.drop pos) = none)
    (behind : pos ≤ i) : ¬ StandsAt word text i := by
  intro stands
  obtain ⟨n, rfl⟩ := Nat.exists_eq_add_of_le behind
  exact (cutAt?_eq_none_iff proper).mp none ⟨_, ((standsAt_add_iff proper n).mp stands).2⟩

theorem exists_isNext_iff (proper : word ≠ []) :
    (∃ i, IsNext word text pos i) ↔ ∃ i, pos ≤ i ∧ StandsAt word text i := by
  constructor
  · rintro ⟨i, next⟩
    exact ⟨i, next.behind, next.stands⟩
  · rintro ⟨i, behind, stands⟩
    cases cut : cutAt? word (text.drop pos) with
    | none => exact absurd stands (not_standsAt_of_cutAt? proper cut behind)
    | some parts => exact ⟨_, (isNext_of_cutAt? proper cut).1⟩

end Text

open Text

section Scan

variable {text : List Char} {pos i j : Nat}

structure NextBlock (text : List Char) (pos i j : Nat) : Prop where
  opens : IsNext Tag.answer.text text pos i
  closes : IsNext Tag.endAnswer.text text (i + Tag.answer.text.length) j

structure IsMatch (text : List Char) (i j : Nat) : Prop where
  opens : StandsAt Tag.answer.text text i
  closes : StandsAt Tag.endAnswer.text text j
  behind : i + Tag.answer.text.length ≤ j

/-- The match from `pos` on that begins first, and of those that begin there the shortest. -/
structure IsFirstMatch (text : List Char) (pos i j : Nat) : Prop extends IsMatch text i j where
  inside : pos ≤ i
  leftmost : ∀ i' j', pos ≤ i' → IsMatch text i' j' → i ≤ i'
  shortest : ∀ j', IsMatch text i j' → j ≤ j'

/-- The blocks that are found from `pos` on, the search going on behind each of them until a tag is
missing. -/
inductive Scan (text : List Char) : Nat → List (List Char) → Prop
  | stop {pos : Nat} : (∀ i j, ¬ NextBlock text pos i j) → Scan text pos []
  | block {pos i j : Nat} {blocks : List (List Char)} : NextBlock text pos i j →
      Scan text (j + Tag.endAnswer.text.length) blocks →
      Scan text pos (between text (i + Tag.answer.text.length) j :: blocks)

theorem nextBlock_iff_isFirstMatch : NextBlock text pos i j ↔ IsFirstMatch text pos i j := by
  constructor
  · rintro ⟨opens, closes⟩
    refine ⟨⟨opens.stands, closes.stands, closes.behind⟩, opens.behind, ?_, ?_⟩
    · exact fun i' _ inside found => opens.first i' inside found.opens
    · exact fun j' found => closes.first j' found.behind found.closes
  · rintro ⟨⟨opens, closes, behind⟩, inside, leftmost, shortest⟩
    refine ⟨⟨inside, opens, ?_⟩, ⟨behind, closes, ?_⟩⟩
    · -- an earlier opening tag would begin a match that ends at the same place
      intro k from_pos earlier
      refine Nat.le_of_not_lt fun less => ?_
      have found : IsMatch text k j := ⟨earlier, closes, by omega⟩
      exact Nat.not_lt.mpr (leftmost k j from_pos found) less
    · exact fun k behind found => shortest k ⟨opens, found, behind⟩

theorem NextBlock.unique {i' j' : Nat} (h : NextBlock text pos i j) (h' : NextBlock text pos i' j') :
    i = i' ∧ j = j' := by
  have opens := h.opens.unique h'.opens
  subst opens
  exact ⟨rfl, h.closes.unique h'.closes⟩

theorem NextBlock.pos_lt (h : NextBlock text pos i j) : pos < j ∧ j < text.length := by
  have late := h.closes.behind
  have early := h.opens.behind
  have positive := List.length_pos_iff.mpr (Tag.text_ne_nil .answer)
  exact ⟨by omega, h.closes.stands.lt_length (Tag.text_ne_nil _)⟩

theorem Scan.unique {blocks blocks' : List (List Char)} (h : Scan text pos blocks)
    (h' : Scan text pos blocks') : blocks = blocks' := by
  induction h generalizing blocks' with
  | stop none =>
    cases h' with
    | stop => rfl
    | block next => exact absurd next (none _ _)
  | block next _ ih =>
    cases h' with
    | stop none => exact absurd next (none _ _)
    | block next' rest' =>
      obtain ⟨rfl, rfl⟩ := next.unique next'
      rw [ih rest']

/-- The pass over the text from `pos` on goes from block to block. -/
theorem answerBlocks_drop (text : List Char) (pos : Nat) :
    (∃ i j, NextBlock text pos i j ∧ answerBlocks (text.drop pos) =
      between text (i + Tag.answer.text.length) j ::
        answerBlocks (text.drop (j + Tag.endAnswer.text.length))) ∨
    (∀ i j, ¬ NextBlock text pos i j) ∧ answerBlocks (text.drop pos) = [] := by
  have opening := Tag.text_ne_nil .answer
  have closing := Tag.text_ne_nil .endAnswer
  rw [answerBlocks_eq]
  rcases opened : cutAt? Tag.answer.text (text.drop pos) with - | ⟨before, rest⟩
  · exact Or.inr ⟨fun i j next =>
      not_standsAt_of_cutAt? opening opened next.opens.behind next.opens.stands, rfl⟩
  · obtain ⟨opens, -, rfl⟩ := isNext_of_cutAt? opening opened
    rcases closed : cutAt? Tag.endAnswer.text
      (text.drop (pos + before.length + Tag.answer.text.length)) with - | ⟨block, behind⟩
    · refine Or.inr ⟨fun i j next => ?_, by simp only [closed]⟩
      have same := next.opens.unique opens
      subst same
      exact not_standsAt_of_cutAt? closing closed next.closes.behind next.closes.stands
    · obtain ⟨closes, inner, outer⟩ := isNext_of_cutAt? closing closed
      refine Or.inl ⟨_, _, ⟨opens, closes⟩, ?_⟩
      simp only [closed]
      rw [← inner, ← outer]

theorem scan_answerBlocks (text : List Char) (pos : Nat) :
    Scan text pos (answerBlocks (text.drop pos)) := by
  -- the text that is left grows shorter from block to block
  induction left : text.length - pos using Nat.strongRecOn generalizing pos with
  | ind left ih =>
    rcases answerBlocks_drop text pos with ⟨i, j, next, found⟩ | ⟨none, found⟩
    · rw [found]
      have less := next.pos_lt
      exact .block next (ih _ (by omega) _ rfl)
    · rw [found]
      exact .stop none

theorem scan_iff {blocks : List (List Char)} : Scan text 0 blocks ↔ blocks = answerBlocks text := by
  have scan := scan_answerBlocks text 0
  rw [List.drop_zero] at scan
  constructor
  · exact fun h => h.unique scan
  · rintro rfl
    exact scan

theorem answerBlocks_eq_nil_iff : answerBlocks text = [] ↔
    ∀ i, IsNext Tag.answer.text text 0 i →
      ∀ j, i + Tag.answer.text.length ≤ j → ¬ StandsAt Tag.endAnswer.text text j := by
  rw [eq_comm, ← scan_iff]
  constructor
  · intro scan i opens j behind stands
    obtain ⟨j, closes⟩ := (exists_isNext_iff (Tag.text_ne_nil _)).mpr ⟨j, behind, stands⟩
    cases scan with
    | stop none => exact none i j ⟨opens, closes⟩
  · intro none
    exact .stop fun i j next => none i next.opens j next.closes.behind next.closes.stands

end Scan

/-- The blocks of every text are those of the search from left to right, in which each block is the
match that begins and then ends first. The first one is the answer that is checked and the last one the
answer that is scored, and both are missing just where no end tag stands behind the first opening tag. -/
theorem answers_left_to_right (text : List Char) : ∃ blocks : List (List Char),
    Scan text 0 blocks ∧ (∀ other, Scan text 0 other → other = blocks) ∧
      (∀ pos i j, NextBlock text pos i j ↔ IsFirstMatch text pos i j) ∧
      firstAnswer? text = blocks.head?.map trim ∧
      lastAnswer? text = blocks.getLast?.map (fun block => normalizeNewlines (trim block)) ∧
      (∀ answer? ∈ [firstAnswer? text, lastAnswer? text], answer? = none ↔
        ∀ i, IsNext Tag.answer.text text 0 i →
          ∀ j, i + Tag.answer.text.length ≤ j → ¬ StandsAt Tag.endAnswer.text text j) ∧
      (blocks.length = 1 → lastAnswer? text = (firstAnswer? text).map normalizeNewlines) := by
  refine ⟨answerBlocks text, scan_iff.mpr rfl, fun _ => scan_iff.mp,
    fun _ _ _ => nextBlock_iff_isFirstMatch, rfl, rfl, ?_, ?_⟩
  · intro answer? member
    rw [← answerBlocks_eq_nil_iff]
    simp only [List.mem_cons, List.not_mem_nil, or_false] at member
    rcases member with rfl | rfl <;> simp [firstAnswer?, lastAnswer?]
  · intro one
    obtain ⟨block, only⟩ := List.length_eq_one_iff.mp one
    simp [firstAnswer?, lastAnswer?, only]

/-- An end tag before the first opening tag, and another opening tag inside the only block. -/
theorem answers_left_to_right_of_nested : ∃ blocks : List (List Char),
    Scan "</answer><answer>a<answer>\\nb </answer></answer>".toList 0 blocks ∧ blocks.length = 1 ∧
      lastAnswer? "</answer><answer>a<answer>\\nb </answer></answer>".toList =
        (firstAnswer? "</answer><answer>a<answer>\\nb </answer></answer>".toList).map
          normalizeNewlines := by
  obtain ⟨blocks, scan, -, -, -, -, -, single⟩ := answers_left_to_right
    "</answer><answer>a<answer>\\nb </answer></answer>".toList
  have one : blocks.length = 1 := by
    rw [scan_iff.mp scan]
    decide_cbv
  exact ⟨blocks, scan, one, single one⟩

end PuzzlePrep

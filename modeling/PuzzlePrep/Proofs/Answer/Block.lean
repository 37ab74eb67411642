import PuzzlePrep.Answer.Block
import PuzzlePrep.Proofs.Text.Newlines

namespace PuzzlePrep

open Text

namespace Tag

theorem text_ne_nil (t : Tag) : t.text ≠ [] := by cases t <;> decide

theorem exists_text (t : Tag) : ∃ more, t.text = '<' :: more := by
  cases t <;> exact ⟨_, rfl⟩

/-- A tag begins with an angle bracket and has no other one like it. -/
theorem not_mem_tail_text (t : Tag) : '<' ∉ t.text.tail := by cases t <;> decide

/-- A tag behind the beginning of a tag is behind the whole of it. -/
theorem split_behind {t u : Tag} {gap rest behind : List Char} (positive : gap ≠ [])
    (same : t.text ++ rest = gap ++ u.text ++ behind) : ∃ more, gap = t.text ++ more := by
  rw [List.append_assoc, List.append_eq_append_iff] at same
  rcases same with ⟨more, split, -⟩ | ⟨tail, split, bridge⟩
  · exact ⟨more, split⟩
  · cases tail with
    | nil => exact ⟨[], by rw [List.append_nil] at split ⊢; exact split.symm⟩
    | cons c tail =>
      obtain ⟨g, gap, rfl⟩ := List.exists_cons_of_ne_nil positive
      obtain ⟨more, begins⟩ := u.exists_text
      rw [begins, List.cons_append, List.cons_append, List.cons.injEq] at bridge
      obtain ⟨rfl, -⟩ := bridge
      exact absurd (by simp [split]) t.not_mem_tail_text

section Unique

variable {t : Tag} {before before' rest rest' : List Char}

/-- The first tag of its kind is at one place only. -/
theorem first_unique (same : before ++ t.text ++ rest = before' ++ t.text ++ rest')
    (first : ¬ Occurs t.text before) (first' : ¬ Occurs t.text before') : before = before' := by
  -- Of two places for it the later one would have the other before it.
  have ahead {gap rest rest' : List Char} (free : ¬ Occurs t.text gap)
      (split : t.text ++ rest = gap ++ (t.text ++ rest')) : gap = [] := by
    refine Classical.byContradiction fun some => free ?_
    obtain ⟨more, rfl⟩ := split_behind some (by rw [split, List.append_assoc])
    exact ⟨[], more, rfl⟩
  simp only [List.append_assoc] at same
  rcases List.append_eq_append_iff.mp same with ⟨gap, rfl, later⟩ | ⟨gap, rfl, later⟩
  · rw [ahead (fun occurs => first' (occurs.append_left before)) later, List.append_nil]
  · rw [ahead (fun occurs => first (occurs.append_left before')) later, List.append_nil]

/-- The last tag of its kind is at one place only. -/
theorem last_unique (same : before ++ t.text ++ rest = before' ++ t.text ++ rest')
    (last : ¬ Occurs t.text rest) (last' : ¬ Occurs t.text rest') : rest = rest' := by
  have behind {gap rest rest' : List Char} (last : ¬ Occurs t.text rest)
      (split : t.text ++ rest = gap ++ (t.text ++ rest')) : gap = [] := by
    refine Classical.byContradiction fun some => last ?_
    obtain ⟨more, rfl⟩ := split_behind some (by rw [split, List.append_assoc])
    rw [List.append_assoc] at split
    exact ⟨more, rest', by rw [List.append_cancel_left split, List.append_assoc]⟩
  simp only [List.append_assoc] at same
  rcases List.append_eq_append_iff.mp same with ⟨gap, -, split⟩ | ⟨gap, -, split⟩
  · rw [behind last split, List.nil_append] at split
    exact List.append_cancel_left split
  · rw [behind last' split, List.nil_append] at split
    exact (List.append_cancel_left split).symm

end Unique

end Tag

theorem BlockScan.run_skip (state : BlockScan) (n : Nat) (cs : List Char) :
    state.run n cs = state.run 0 (cs.drop n) := by
  induction n generalizing cs with
  | zero => rfl
  | succ n ih =>
    cases cs with
    | nil => simp [BlockScan.run]
    | cons c cs => simpa [BlockScan.run] using ih cs

theorem BlockScan.run_behind (state : BlockScan) {t : Tag} {c : Char} {cs rest : List Char}
    (split : c :: cs = t.text ++ rest) : state.run (t.text.length - 1) cs = state.run 0 rest := by
  rw [run_skip]
  congr 1
  have dropped : (c :: cs).drop t.text.length = rest := by rw [split, List.drop_left]
  have positive := List.length_pos_iff.mpr t.text_ne_nil
  obtain ⟨n, length⟩ := Nat.exists_eq_add_of_lt positive
  rw [length] at dropped ⊢
  simpa using dropped

theorem BlockScan.run_outside (cs : List Char) :
    outside.run 0 cs =
      match cutAt? Tag.answer.text cs with
      | some (_, rest) => (inside []).run 0 rest
      | none => [] := by
  induction cs with
  | nil => rfl
  | cons c cs ih =>
    cases here : after? Tag.answer.text (c :: cs) with
    | some rest =>
      have starts : startsWith Tag.answer.text (c :: cs) = true := by simp [startsWith, here]
      simp only [run, starts, if_true, cutAt?, here]
      exact run_behind _ (after?_eq_some_iff.mp here)
    | none =>
      have starts : startsWith Tag.answer.text (c :: cs) = false := by simp [startsWith, here]
      simp only [run, starts, cutAt?, here, ih]
      cases cutAt? Tag.answer.text cs <;> rfl

theorem BlockScan.run_inside (taken cs : List Char) :
    (inside taken).run 0 cs =
      match cutAt? Tag.endAnswer.text cs with
      | some (block, rest) => (taken.reverse ++ block) :: outside.run 0 rest
      | none => [] := by
  induction cs generalizing taken with
  | nil => rfl
  | cons c cs ih =>
    cases here : after? Tag.endAnswer.text (c :: cs) with
    | some rest =>
      have starts : startsWith Tag.endAnswer.text (c :: cs) = true := by simp [startsWith, here]
      simp only [run, starts, if_true, cutAt?, here, List.append_nil]
      rw [run_behind _ (after?_eq_some_iff.mp here)]
    | none =>
      have starts : startsWith Tag.endAnswer.text (c :: cs) = false := by simp [startsWith, here]
      simp only [run, starts, cutAt?, here, ih]
      cases cutAt? Tag.endAnswer.text cs <;> simp

theorem answerBlocks_eq (cs : List Char) :
    answerBlocks cs =
      match cutAt? Tag.answer.text cs with
      | none => []
      | some (_, rest) =>
        match cutAt? Tag.endAnswer.text rest with
        | none => []
        | some (block, behind) => block :: answerBlocks behind := by
  rw [answerBlocks, BlockScan.run_outside]
  cases cutAt? Tag.answer.text cs with
  | none => rfl
  | some cut =>
    simp only [BlockScan.run_inside]
    cases cutAt? Tag.endAnswer.text cut.2 <;> rfl

theorem answerBlocks_of_not_occurs {cs : List Char} (none : ¬ Occurs Tag.answer.text cs) :
    answerBlocks cs = [] := by
  rw [answerBlocks_eq, (cutAt?_eq_none_iff (Tag.text_ne_nil _)).mpr none]

def IsBlock (response block : List Char) : Prop :=
  ∃ before behind, response = before ++ Tag.answer.text ++ block ++ Tag.endAnswer.text ++ behind

theorem wellTagged_iff {cs : List Char} :
    wellTagged cs = true ↔ ∀ t : Tag, countOf t.text cs = 1 := by
  simp only [wellTagged, List.all_eq_true, beq_iff_eq]
  exact ⟨fun h t => h t t.mem_all, fun h t _ => h t⟩

theorem answerBlocks_of_isBlock {response block : List Char} (tagged : wellTagged response = true)
    (h : IsBlock response block) : answerBlocks response = [block] := by
  obtain ⟨before, behind, split⟩ := h
  have once := wellTagged_iff.mp tagged
  have opened : response = before ++ Tag.answer.text ++ (block ++ Tag.endAnswer.text ++ behind) := by
    rw [split]; simp
  have closed : response = (before ++ Tag.answer.text ++ block) ++ Tag.endAnswer.text ++ behind :=
    split
  have inner : cutAt? Tag.endAnswer.text (block ++ Tag.endAnswer.text ++ behind) =
      some (block, behind) := by
    refine cutAt?_of_countOf_eq_one (Tag.text_ne_nil _) ?_ rfl
    have whole : countOf Tag.endAnswer.text
        (before ++ Tag.answer.text ++ (block ++ Tag.endAnswer.text ++ behind)) = 1 := by
      rw [← opened]
      exact once _
    exact countOf_suffix_eq_one (Tag.text_ne_nil _) whole ⟨block, behind, rfl⟩
  have again : ¬ Occurs Tag.answer.text behind := fun occurs =>
    not_occurs_behind (Tag.text_ne_nil _) (once _) opened (occurs.append_left _)
  rw [answerBlocks_eq, cutAt?_of_countOf_eq_one (Tag.text_ne_nil _) (once _) opened]
  simp only [inner, answerBlocks_of_not_occurs again]

theorem exists_isBlock_of_answerBlocks {response : List Char} (some : answerBlocks response ≠ []) :
    ∃ block, IsBlock response block := by
  rw [answerBlocks_eq] at some
  split at some
  · exact absurd rfl some
  · rename_i before rest opened
    split at some
    · exact absurd rfl some
    · rename_i block behind closed
      refine ⟨block, before, behind, ?_⟩
      rw [cutAt?_split (Tag.text_ne_nil _) opened, cutAt?_split (Tag.text_ne_nil _) closed]
      simp

/-- The first opening tag has an end tag behind it if any opening tag has one. -/
theorem answerBlocks_ne_nil_of_isBlock {response block : List Char} (h : IsBlock response block) :
    answerBlocks response ≠ [] := by
  obtain ⟨before, behind, split⟩ := h
  have split' : response = before ++ Tag.answer.text ++ (block ++ Tag.endAnswer.text ++ behind) := by
    simp [split]
  cases opened : cutAt? Tag.answer.text response with
  | none => exact absurd ⟨before, _, split'⟩ ((cutAt?_eq_none_iff (Tag.text_ne_nil _)).mp opened)
  | some cut =>
    obtain ⟨before', rest⟩ := cut
    obtain ⟨first, least⟩ := (cutAt?_eq_some_iff (Tag.text_ne_nil _)).mp opened
    have early := least before ⟨_, split'⟩
    have closes : Occurs Tag.endAnswer.text rest := by
      have closes : Occurs Tag.endAnswer.text (block ++ Tag.endAnswer.text ++ behind) :=
        ⟨block, behind, rfl⟩
      rcases List.append_eq_append_iff.mp (first.symm.trans split') with
        ⟨gap, -, later⟩ | ⟨gap, longer, later⟩
      · rw [later]
        exact closes.append_left gap
      · have none : gap = [] := by
          have lengths := congrArg List.length longer
          simp only [List.length_append] at lengths
          exact List.eq_nil_of_length_eq_zero (by omega)
        rw [none, List.nil_append] at later
        rwa [later] at closes
    rw [answerBlocks_eq, opened]
    cases closed : cutAt? Tag.endAnswer.text rest with
    | none => exact absurd closes ((cutAt?_eq_none_iff (Tag.text_ne_nil _)).mp closed)
    | some cut => simp [closed]

/-- With every tag once, the text between the answer tags is the only block. -/
theorem lastAnswer?_of_wellTagged {response : List Char} (tagged : wellTagged response = true)
    (text : List Char) : lastAnswer? response = some text ↔
      ∃ block, IsBlock response block ∧ text = normalizeNewlines (trim block) := by
  constructor
  · intro h
    have some : answerBlocks response ≠ [] := by
      intro none
      simp [lastAnswer?, none] at h
    obtain ⟨block, isBlock⟩ := exists_isBlock_of_answerBlocks some
    refine ⟨block, isBlock, ?_⟩
    simpa [lastAnswer?, answerBlocks_of_isBlock tagged isBlock] using h.symm
  · rintro ⟨block, isBlock, rfl⟩
    simp [lastAnswer?, answerBlocks_of_isBlock tagged isBlock]

def AnswerOpensFirst (response : List Char) : Prop :=
  ∃ before before', OccursAt Tag.answer.text before response ∧
    OccursAt Tag.endAnswer.text before' response ∧ before.length < before'.length

theorem exists_isBlock_iff {response : List Char} :
    (∃ block, IsBlock response block) ↔ AnswerOpensFirst response := by
  constructor
  · rintro ⟨block, before, behind, split⟩
    refine ⟨before, before ++ Tag.answer.text ++ block, 
      ⟨block ++ Tag.endAnswer.text ++ behind, by rw [split]; simp⟩, ⟨behind, split⟩, ?_⟩
    have positive := List.length_pos_iff.mpr (Tag.text_ne_nil .answer)
    simp only [List.length_append]
    omega
  · rintro ⟨before, before', ⟨rest, opened⟩, ⟨behind, closed⟩, less⟩
    have whole : before ++ (Tag.answer.text ++ rest) = before' ++ (Tag.endAnswer.text ++ behind) := by
      rw [← List.append_assoc, ← List.append_assoc, ← opened, ← closed]
    rcases List.append_eq_append_iff.mp whole with ⟨gap, split, same⟩ | ⟨gap, split, -⟩
    · have positive : gap ≠ [] := by
        rintro rfl
        simp [split] at less
      obtain ⟨block, rfl⟩ := Tag.split_behind positive (by rw [same, List.append_assoc])
      exact ⟨block, before, behind, by rw [closed, split]; simp⟩
    · rw [split, List.length_append] at less
      omega

end PuzzlePrep

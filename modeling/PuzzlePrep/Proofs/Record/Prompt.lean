import PuzzlePrep.Proofs.Text.Erase
import PuzzlePrep.Record.OfRow

namespace PuzzlePrep

open Text

def leftovers : List (List Char) := assistantMarker :: Tag.all.map Tag.text

/-- No tag, no beginning of an assistant turn, no blanks at the ends. -/
def Clean (cs : List Char) : Prop := (∀ w ∈ leftovers, ¬ Occurs w cs) ∧ trim cs = cs

/-- No tag stands right behind the beginning of a tag or of an assistant turn. -/
def Seamless (cs : List Char) : Prop :=
  ∀ w ∈ leftovers, ¬ Interrupted (Tag.all.map Tag.text) w cs

instance : DecidablePred Clean := fun cs =>
  inferInstanceAs (Decidable ((∀ w ∈ leftovers, ¬ Occurs w cs) ∧ trim cs = cs))

instance : DecidablePred Seamless := fun cs =>
  inferInstanceAs (Decidable (∀ w ∈ leftovers, ¬ Interrupted (Tag.all.map Tag.text) w cs))

def thinkTags : List (List Char) := [Tag.think.text, Tag.endThink.text]

def answerTags : List (List Char) := [Tag.answer.text, Tag.endAnswer.text]

theorem thinkTags_proper : ∀ w ∈ thinkTags, w ≠ [] := by decide

theorem answerTags_proper : ∀ w ∈ answerTags, w ≠ [] := by decide

theorem thinkTags_subset : thinkTags ⊆ Tag.all.map Tag.text := by decide

theorem answerTags_subset : answerTags ⊆ Tag.all.map Tag.text := by decide

theorem assistantMarker_ne_nil : assistantMarker ≠ [] := by decide

theorem leftovers_ne_nil : ∀ w ∈ leftovers, w ≠ [] := by decide

theorem mem_leftovers {w : List Char} :
    w ∈ leftovers ↔ w = assistantMarker ∨ w ∈ thinkTags ∨ w ∈ answerTags := by
  simp [leftovers, thinkTags, answerTags, Tag.all, or_assoc]

theorem cleanPrompt_eq (cs : List Char) :
    cleanPrompt cs = trim (erase answerTags (erase thinkTags (beforeAssistant cs))) := rfl

theorem not_occurs_beforeAssistant (cs : List Char) :
    ¬ Occurs assistantMarker (beforeAssistant cs) := by
  unfold beforeAssistant
  cases cut : cutAt? assistantMarker cs with
  | none => exact (cutAt?_eq_none_iff assistantMarker_ne_nil).mp cut
  | some parts =>
    obtain ⟨before, rest⟩ := parts
    obtain ⟨split, first⟩ := (cutAt?_eq_some_iff assistantMarker_ne_nil).mp cut
    show ¬ Occurs assistantMarker before
    rintro ⟨earlier, more, inside⟩
    have late := first earlier ⟨more ++ assistantMarker ++ rest, by rw [split, inside]; simp⟩
    have positive := List.length_pos_iff.mpr assistantMarker_ne_nil
    rw [inside] at late
    simp only [List.length_append] at late
    omega

theorem beforeAssistant_sublist (cs : List Char) : (beforeAssistant cs).Sublist cs := by
  unfold beforeAssistant
  cases cut : cutAt? assistantMarker cs with
  | none => exact List.Sublist.refl cs
  | some parts =>
    obtain ⟨before, rest⟩ := parts
    rw [cutAt?_split assistantMarker_ne_nil cut, List.append_assoc]
    exact List.sublist_append_left before _

theorem beforeAssistant_of_absent {cs : List Char} (absent : ¬ Occurs assistantMarker cs) :
    beforeAssistant cs = cs := by
  rw [beforeAssistant, (cutAt?_eq_none_iff assistantMarker_ne_nil).mpr absent]

theorem trim_sublist (cs : List Char) : (trim cs).Sublist cs := by
  obtain ⟨front, back, -, -, split⟩ := exists_trim cs
  have middle : (trim cs).Sublist (front ++ trim cs ++ back) := by
    rw [List.append_assoc]
    exact (List.sublist_append_left _ back).trans (List.sublist_append_right front _)
  rwa [← split] at middle

theorem trim_cleanPrompt (cs : List Char) : trim (cleanPrompt cs) = cleanPrompt cs :=
  trim_trim _

theorem Clean.cleanPrompt_eq {cs : List Char} (clean : Clean cs) : cleanPrompt cs = cs := by
  obtain ⟨absent, trimmed⟩ := clean
  have spoken := beforeAssistant_of_absent (absent _ (mem_leftovers.mpr (Or.inl rfl)))
  have thinkless : erase thinkTags cs = cs :=
    (erase_eq_self_iff thinkTags_proper cs).mpr fun w member =>
      absent w (mem_leftovers.mpr (Or.inr (Or.inl member)))
  have answerless : erase answerTags cs = cs :=
    (erase_eq_self_iff answerTags_proper cs).mpr fun w member =>
      absent w (mem_leftovers.mpr (Or.inr (Or.inr member)))
  rw [PuzzlePrep.cleanPrompt_eq, spoken, thinkless, answerless, trimmed]

theorem cleanPrompt_eq_self_iff (cs : List Char) : cleanPrompt cs = cs ↔ Clean cs := by
  refine ⟨?_, Clean.cleanPrompt_eq⟩
  intro same
  have trimmed : trim cs = cs := by rw [← same, trim_cleanPrompt]
  -- no step drops a character, since together they drop none
  have spokenPart := beforeAssistant_sublist cs
  have thinkPart := erase_sublist thinkTags_proper (beforeAssistant cs)
  have answerPart := erase_sublist answerTags_proper (erase thinkTags (beforeAssistant cs))
  have whole := (trim_sublist (erase answerTags (erase thinkTags (beforeAssistant cs)))).length_le
  rw [← cleanPrompt_eq, same] at whole
  have spokenLength := spokenPart.length_le
  have thinkLength := thinkPart.length_le
  have answerLength := answerPart.length_le
  have spoken : beforeAssistant cs = cs := spokenPart.eq_of_length (by omega)
  rw [spoken] at thinkPart answerPart thinkLength answerLength whole
  have thinkless : erase thinkTags cs = cs := thinkPart.eq_of_length (by omega)
  rw [thinkless] at answerPart answerLength whole
  have answerless : erase answerTags cs = cs := answerPart.eq_of_length (by omega)
  refine ⟨?_, trimmed⟩
  intro w member
  rcases mem_leftovers.mp member with rfl | think | answer
  · have absent := not_occurs_beforeAssistant cs
    rwa [spoken] at absent
  · exact (erase_eq_self_iff thinkTags_proper cs).mp thinkless w think
  · exact (erase_eq_self_iff answerTags_proper cs).mp answerless w answer

theorem Seamless.not_interrupted {cs w : List Char} {words : List (List Char)}
    (seamless : Seamless cs) (member : w ∈ leftovers) (subset : words ⊆ Tag.all.map Tag.text) :
    ¬ Interrupted words w cs := fun broken => seamless w member (broken.of_subset subset)

/-- The first pass puts nothing right before an answer tag either. -/
theorem Seamless.erase_thinkTags {cs w : List Char} (seamless : Seamless cs)
    (member : w ∈ leftovers) : ¬ Interrupted answerTags w (erase thinkTags cs) := by
  rintro ⟨n, part, positive, tag, answer, occurs⟩
  have tagMember : tag ∈ leftovers := mem_leftovers.mpr (Or.inr (Or.inr answer))
  have length : (w.take n).length = n := List.length_take_of_le (Nat.le_of_lt part)
  have text : w.take n ++ tag ≠ [] := by simp [answerTags_proper tag answer]
  rcases occurs_of_occurs_erase thinkTags_proper text occurs with ⟨-, before⟩ | broken
  · exact seamless.not_interrupted member answerTags_subset
      ⟨n, part, positive, tag, answer, before⟩
  · obtain ⟨m, partBoth, positive', think, thinkMember, found⟩ := broken
    rw [List.length_append, length] at partBoth
    rw [List.take_append, length] at found
    by_cases early : m ≤ n
    · -- the seam lies in the beginning of the word
      rw [List.take_take, Nat.min_eq_left early, Nat.sub_eq_zero_of_le early, List.take_zero,
        List.append_nil] at found
      exact seamless.not_interrupted member thinkTags_subset
        ⟨m, by omega, positive', think, thinkMember, found⟩
    · -- the seam lies in the answer tag
      rw [List.append_assoc] at found
      exact seamless.not_interrupted tagMember thinkTags_subset
        ⟨m - n, by omega, by omega, think, thinkMember, found.of_append_left⟩

theorem clean_of_seamless {cs : List Char} (seamless : Seamless (beforeAssistant cs)) :
    Clean (cleanPrompt cs) := by
  refine ⟨?_, trim_cleanPrompt cs⟩
  intro w member occurs
  have text := leftovers_ne_nil w member
  rcases occurs_of_occurs_erase answerTags_proper text occurs.of_trim with ⟨other, left⟩ | broken
  · rcases occurs_of_occurs_erase thinkTags_proper text left with ⟨other', spoken⟩ | broken
    · rcases mem_leftovers.mp member with rfl | think | answer
      · exact not_occurs_beforeAssistant cs spoken
      · exact other' think
      · exact other answer
    · exact seamless.not_interrupted member thinkTags_subset broken
  · exact seamless.erase_thinkTags member broken

namespace Record

theorem user_content {row : Json.Members} {split : Split} {index : Nat} {m : Message}
    (member : m ∈ (ofRow row split index).prompt) (user : m.role = "user") :
    m.content.toList = cleanPrompt (question row).toList := by
  simp only [ofRow, List.mem_cons, List.not_mem_nil, or_false] at member
  rcases member with rfl | rfl
  · exact absurd user (by decide)
  · simp

end Record

/-- A prompt is trimmed, and cleaned once and for all exactly if it is clean. It is clean if the text
before the assistant turn is seamless, and so is what the user asks in a record then. -/
theorem cleanPrompt_of_seamless (cs : List Char) :
    trim (cleanPrompt cs) = cleanPrompt cs ∧
      (cleanPrompt (cleanPrompt cs) = cleanPrompt cs ↔ Clean (cleanPrompt cs)) ∧
      (Seamless (beforeAssistant cs) → Clean (cleanPrompt cs) ∧
        ∀ (row : Json.Members) (split : Split) (index : Nat), (Record.question row).toList = cs →
          ∀ m ∈ (Record.ofRow row split index).prompt, m.role = "user" →
            Clean m.content.toList) := by
  refine ⟨trim_cleanPrompt cs, cleanPrompt_eq_self_iff _, ?_⟩
  intro seamless
  have clean := clean_of_seamless seamless
  refine ⟨clean, ?_⟩
  intro row split index asked m member user
  rw [Record.user_content member user, asked]
  exact clean

theorem cleanPrompt_of_tagged :
    Seamless (beforeAssistant " <think>Zoey</think> says <answer>hi</answer>".toList) ∧
      Clean (cleanPrompt " <think>Zoey</think> says <answer>hi</answer>".toList) ∧
      ∀ m ∈ (Record.ofRow [("quiz", .str " <think>Zoey</think> says <answer>hi</answer>")]
        .train 0).prompt, m.role = "user" → Clean m.content.toList := by
  have seamless : Seamless (beforeAssistant " <think>Zoey</think> says <answer>hi</answer>".toList) :=
    by decide +kernel
  obtain ⟨-, -, settled⟩ := cleanPrompt_of_seamless
    " <think>Zoey</think> says <answer>hi</answer>".toList
  obtain ⟨clean, records⟩ := settled seamless
  exact ⟨seamless, clean, records _ .train 0 (by decide +kernel)⟩

/-- A tag inside a tag of the other kind, of its own kind, and inside the beginning of an assistant
turn: what comes together stays, and is found when the text is cleaned again. -/
theorem cleanPrompt_joins :
    cleanPrompt "<th<answer>ink>x</answer>".toList = "<think>x".toList ∧
      cleanPrompt "<th<think>ink>x".toList = "<think>x".toList ∧
      cleanPrompt "x<|im_start|<answer>>assistant".toList = "x<|im_start|>assistant".toList ∧
      ¬ Clean (cleanPrompt "<th<answer>ink>x</answer>".toList) ∧
      cleanPrompt (cleanPrompt "<th<answer>ink>x</answer>".toList) ≠
        cleanPrompt "<th<answer>ink>x</answer>".toList := by
  decide +kernel

end PuzzlePrep

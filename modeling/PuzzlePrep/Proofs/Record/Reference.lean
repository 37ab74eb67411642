import PuzzlePrep.Proofs.Answer.Tagged
import PuzzlePrep.Record.Reference

namespace PuzzlePrep

open Text

namespace Text

/-- Parts that were joined before may as well be joined with all others. -/
theorem join_middle (sep : List Char) {ys : List (List Char)} (some : ys ≠ [])
    (xs zs : List (List Char)) : join sep (xs ++ [join sep ys] ++ zs) = join sep (xs ++ ys ++ zs) := by
  have behind : join sep (join sep ys :: zs) = join sep (ys ++ zs) := by
    by_cases last : zs = []
    · simp [last, join]
    · rw [join_cons_of_ne_nil sep _ last, join_append sep some last]
  by_cases first : xs = []
  · simpa [first] using behind
  · have joined : join sep (xs ++ join sep ys :: zs) = _ :=
      join_append sep first (List.cons_ne_nil _ _)
    rw [behind, ← join_append sep first (by simp [some])] at joined
    simpa using joined

theorem trim_join_nil_cons (parts : List (List Char)) :
    trim (join [' '] ([] :: parts)) = trim (join [' '] parts) := by
  by_cases last : parts = []
  · rw [last]
    rfl
  · rw [join_cons_of_ne_nil _ _ last, List.nil_append]
    exact trim_append_left rfl _

theorem trim_join_concat_nil (parts : List (List Char)) :
    trim (join [' '] (parts ++ [[]])) = trim (join [' '] parts) := by
  by_cases first : parts = []
  · rw [first]
    rfl
  · have last : join [' '] [[]] = [] := rfl
    rw [join_append _ first (List.cons_ne_nil _ _), last, List.append_nil]
    exact trim_append_right rfl _

end Text

namespace Explanation

def properParts (e : Explanation) : List (List Char) :=
  ((e.head :: (e.steps ++ [e.foot])).filter (!allBlank ·)).map trim

def properEnd (cs : List Char) : List (List Char) := if allBlank cs then [] else [trim cs]

theorem properSteps_eq (e : Explanation) :
    e.properSteps = (e.steps.filter (!allBlank ·)).map trim := by
  rw [properSteps, List.filter_map]
  congr 2
  funext step
  rw [Function.comp_apply, Bool.not_inj_iff, Bool.eq_iff_iff, List.isEmpty_iff, trim_eq_nil_iff]

theorem properParts_eq (e : Explanation) :
    e.properParts = properEnd e.head ++ e.properSteps ++ properEnd e.foot := by
  rw [properParts, properSteps_eq, List.filter_cons, List.filter_append, properEnd, properEnd]
  by_cases head : allBlank e.head <;> by_cases foot : allBlank e.foot <;> simp [head, foot]

/-- A blank head or foot that is not empty is an empty part. -/
theorem endPart_cases (cs : List Char) :
    endPart cs = properEnd cs ∨ endPart cs = [[]] ∧ properEnd cs = [] := by
  unfold endPart properEnd
  by_cases blank : allBlank cs = true
  · have empty := trim_eq_nil_iff.mpr blank
    by_cases none : cs = []
    · rw [none]
      exact Or.inl rfl
    · simp [blank, none, empty]
  · have some : cs ≠ [] := by
      rintro rfl
      exact blank rfl
    simp [blank, some]

theorem trim_join_endPart_append (cs : List Char) (parts : List (List Char)) :
    trim (join [' '] (endPart cs ++ parts)) = trim (join [' '] (properEnd cs ++ parts)) := by
  rcases endPart_cases cs with same | ⟨empty, none⟩
  · rw [same]
  · rw [empty, none]
    exact trim_join_nil_cons parts

theorem trim_join_append_endPart (cs : List Char) (parts : List (List Char)) :
    trim (join [' '] (parts ++ endPart cs)) = trim (join [' '] (parts ++ properEnd cs)) := by
  rcases endPart_cases cs with same | ⟨empty, none⟩
  · rw [same]
  · rw [empty, none, List.append_nil]
    exact trim_join_concat_nil parts

theorem bare_of_mem_properParts {e : Explanation} {part : List Char} (member : part ∈ e.properParts) :
    part ≠ [] ∧ trim part = part := by
  obtain ⟨cs, inside, rfl⟩ := List.mem_map.mp member
  have solid : ¬ allBlank cs = true := by simpa using (List.mem_filter.mp inside).2
  exact ⟨fun empty => solid (trim_eq_nil_iff.mp empty), trim_trim cs⟩

/-- Blank ends leave a blank in front or at the back at most, and that is trimmed off. -/
theorem reasoning_eq_join (e : Explanation) : e.reasoning = join [' '] e.properParts := by
  have joined : e.reasoning =
      trim (join [' '] (endPart e.head ++ e.properSteps ++ endPart e.foot)) := by
    rw [reasoning]
    by_cases none : e.properSteps = []
    · simp [none]
    · have middle := join_middle [' '] none (endPart e.head) (endPart e.foot)
      simpa [none] using congrArg trim middle
  rw [joined, trim_join_append_endPart, List.append_assoc, trim_join_endPart_append,
    ← List.append_assoc, ← properParts_eq]
  exact trim_join_of_bare fun part => bare_of_mem_properParts

end Explanation

section Tags

variable {cs : List Char}

theorem Tag.not_isBlank_text (t : Tag) : ∀ c ∈ t.text, isBlank c = false := by
  cases t <;> simp [Tag.text, isBlank]

theorem tagFree_trim : TagFree (trim cs) ↔ TagFree cs :=
  forall_congr' fun t => not_congr (occurs_trim_iff t.text_ne_nil t.not_isBlank_text cs)

theorem tagFree_of_allBlank (blank : allBlank cs = true) : TagFree cs :=
  fun t => not_occurs_of_allBlank t.text_ne_nil t.not_isBlank_text blank

theorem tagFree_normalizeNewlines : TagFree (normalizeNewlines cs) ↔ TagFree cs :=
  forall_congr' fun t => not_congr (t.occurs_normalizeNewlines_iff cs)

theorem tagFree_join {parts : List (List Char)} :
    TagFree (join [' '] parts) ↔ ∀ part ∈ parts, TagFree part := by
  have outside (t : Tag) : ' ' ∉ t.text := by cases t <;> decide
  have inside (t : Tag) := occurs_join_iff t.text_ne_nil (outside t) parts
  constructor
  · intro free part member t occurs
    exact free t ((inside t).mpr ⟨part, member, occurs⟩)
  · intro free t occurs
    obtain ⟨part, member, occurs⟩ := (inside t).mp occurs
    exact free part member t occurs

theorem tagFree_reasoning {e : Explanation} :
    TagFree e.reasoning ↔ ∀ cs ∈ e.head :: (e.steps ++ [e.foot]), TagFree cs := by
  rw [e.reasoning_eq_join, tagFree_join, Explanation.properParts, List.forall_mem_map]
  constructor
  · intro free cs member
    by_cases blank : allBlank cs
    · exact tagFree_of_allBlank blank
    · exact tagFree_trim.mp (free cs (List.mem_filter.mpr ⟨member, by simp [blank]⟩))
  · intro free cs member
    exact tagFree_trim.mpr (free cs (List.mem_filter.mp member).1)

end Tags

/-- A reference response says nothing before, between and behind its two parts. -/
def referenceSections (e : Explanation) (answer : List Char) : Sections where
  before := []
  reasoning := e.reasoning
  between := []
  answer := normalizeNewlines (trim answer)
  after := []

theorem text_referenceSections (e : Explanation) (answer : List Char) :
    (referenceSections e answer).text = referenceResponse e answer := by
  simp [referenceSections, Sections.text, referenceResponse]

theorem inGoodOrder_referenceResponse {e : Explanation} {answer : List Char} :
    inGoodOrder (referenceResponse e answer) = true ↔
      (∀ cs ∈ e.head :: (e.steps ++ [e.foot]), TagFree cs) ∧ TagFree answer := by
  rw [← text_referenceSections, Sections.inGoodOrder_text_iff]
  simp [Sections.pieces, referenceSections, tagFree_nil, tagFree_reasoning,
    tagFree_normalizeNewlines, tagFree_trim]

theorem firstAnswer?_referenceResponse {e : Explanation} {answer : List Char}
    (ordered : inGoodOrder (referenceResponse e answer) = true) :
    firstAnswer? (referenceResponse e answer) = some (trim (normalizeNewlines (trim answer))) := by
  rw [← text_referenceSections] at ordered ⊢
  exact Sections.firstAnswer?_text (wellTagged_of_inGoodOrder ordered)

/-- What a reference response is, when it is in good order, and what is then read of it. -/
theorem referenceResponse_taken_apart (e : Explanation) (answer : List Char) :
    referenceResponse e answer = Tag.think.text ++
      join [' '] (((e.head :: (e.steps ++ [e.foot])).filter (!allBlank ·)).map trim) ++
      Tag.endThink.text ++ Tag.answer.text ++ normalizeNewlines (trim answer) ++
      Tag.endAnswer.text ∧
    (inGoodOrder (referenceResponse e answer) = true ↔
      TagFree e.head ∧ (∀ step ∈ e.steps, TagFree step) ∧ TagFree e.foot ∧ TagFree answer) ∧
    (inGoodOrder (referenceResponse e answer) = true →
      firstAnswer? (referenceResponse e answer) = some (trim (normalizeNewlines (trim answer)))) := by
  refine ⟨?_, ?_, firstAnswer?_referenceResponse⟩
  · rw [referenceResponse, e.reasoning_eq_join]
    rfl
  · rw [inGoodOrder_referenceResponse]
    simp [or_imp, forall_and, and_assoc]

def tornTag : Explanation where
  head := " \n".toList
  steps := [" Zoey lies. ".toList, "  ".toList, "So</thi".toList]
  foot := "nk>".toList

theorem referenceResponse_of_torn_tag :
    inGoodOrder (referenceResponse tornTag " (1) Zoey\\n ".toList) = true ∧
    referenceResponse tornTag " (1) Zoey\\n ".toList =
      "<think>Zoey lies. So</thi nk></think><answer>(1) Zoey\n</answer>".toList ∧
    firstAnswer? (referenceResponse tornTag " (1) Zoey\\n ".toList) =
      some "(1) Zoey".toList := by
  obtain ⟨built, free, read⟩ := referenceResponse_taken_apart tornTag " (1) Zoey\\n ".toList
  have ordered := free.mpr
    ⟨by decide +kernel, by decide +kernel, by decide +kernel, by decide +kernel⟩
  exact ⟨ordered, built.trans (by decide +kernel), (read ordered).trans (by decide +kernel)⟩

end PuzzlePrep

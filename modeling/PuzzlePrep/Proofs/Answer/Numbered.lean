import Mathlib
import PuzzlePrep.Proofs.Answer.Form

namespace PuzzlePrep

open Text

structure Numbered (parts : List (List Char)) : Prop where
  line : ∀ i part, parts[i]? = some part → IsAnswerLine (i + 1) part
  whole : ∀ part ∈ parts, '\n' ∉ part

inductive Edited : List (List Char) → List (List Char) → Prop
  | swap (front : List (List Char)) (a : List Char) (middle : List (List Char)) (b : List Char)
      (back : List (List Char)) :
      Edited (front ++ a :: middle ++ b :: back) (front ++ b :: middle ++ a :: back)
  | drop (front : List (List Char)) (a : List Char) (back : List (List Char)) :
      Edited (front ++ a :: back) (front ++ back)
  | insert {front back : List (List Char)} {blank : List Char} (above : front ≠ [])
      (below : back ≠ []) (empty : allBlank blank = true) :
      Edited (front ++ back) (front ++ blank :: back)
  | extend (front : List (List Char)) (a more : List Char)
      (back : List (List Char)) (text : allBlank more = false) :
      Edited (front ++ a :: back) (front ++ (a ++ more) :: back)

section Edited

variable {count : Nat} {text a b more blank : List Char} {parts front middle back : List (List Char)}

theorem isAnswer_iff_of_lines (split : lines (trim text) = parts) : isAnswer count text = true ↔
    parts.length = count ∧ ∀ i part, parts[i]? = some part → IsAnswerLine (i + 1) (trim part) := by
  rw [isAnswer_iff_isAnswerText, ← split]
  exact ⟨fun h => ⟨h.length, h.line⟩, fun ⟨length, line⟩ => ⟨length, line⟩⟩

theorem not_isAnswer_of_length (split : lines (trim text) = parts) (other : parts.length ≠ count) :
    isAnswer count text = false := by
  rw [← Bool.not_eq_true, isAnswer_iff_of_lines split]
  exact fun h => other h.1

theorem not_isAnswer_of_line (split : lines (trim text) = front ++ a :: back)
    (wrong : ¬ IsAnswerLine (front.length + 1) (trim a)) : isAnswer count text = false := by
  rw [← Bool.not_eq_true, isAnswer_iff_of_lines split]
  exact fun h => wrong (h.2 front.length a (by simp))

namespace Numbered

theorem isLine (numbered : Numbered parts) : ∀ part ∈ parts, IsLine part := by
  intro part member
  obtain ⟨i, found⟩ := List.mem_iff_getElem?.mp member
  have form := numbered.line i part found
  exact ⟨form.ne_nil, form.trim_eq, numbered.whole part member⟩

theorem isLine_others (numbered : Numbered (front ++ a :: back)) :
    ∀ part ∈ front ++ back, IsLine part := by
  intro part member
  have inside : part ∈ front ++ a :: back := by
    simp only [List.mem_append, List.mem_cons] at member ⊢
    tauto
  exact numbered.isLine part inside

theorem at_middle (numbered : Numbered (front ++ a :: back)) :
    IsAnswerLine (front.length + 1) a := numbered.line front.length a (by simp)

theorem isAnswer_iff (numbered : Numbered parts) (some : parts ≠ []) :
    isAnswer count (join ['\n'] parts) = true ↔ count = parts.length := by
  rw [isAnswer_iff_of_lines (lines_trim_join some numbered.isLine), eq_comm, and_iff_left_iff_imp]
  intro _ i part found
  have form := numbered.line i part found
  rwa [form.trim_eq]

/-- The line that comes up has a number that is too great. -/
theorem not_isAnswer_swapped (numbered : Numbered (front ++ a :: middle ++ b :: back)) :
    isAnswer count (join ['\n'] (front ++ b :: middle ++ a :: back)) = false := by
  have split : lines (trim (join ['\n'] (front ++ b :: middle ++ a :: back))) =
      front ++ b :: (middle ++ a :: back) := by
    rw [lines_trim_join (by simp)]
    · simp
    · intro part member
      refine numbered.isLine part ?_
      simp only [List.mem_append, List.mem_cons] at member ⊢
      tauto
  have own : IsAnswerLine ((front ++ a :: middle).length + 1) b := numbered.at_middle
  apply not_isAnswer_of_line split
  rw [own.trim_eq]
  intro moved
  have same := moved.number_unique own
  simp at same

theorem not_isAnswer_dropped (numbered : Numbered (front ++ a :: back)) :
    isAnswer (front ++ a :: back).length (join ['\n'] (front ++ back)) = false := by
  by_cases none : front ++ back = []
  · obtain ⟨rfl, rfl⟩ := List.append_eq_nil_iff.mp none
    rfl
  · exact not_isAnswer_of_length (lines_trim_join none numbered.isLine_others) (by simp)

theorem not_isAnswer_inserted (numbered : Numbered (front ++ back)) (above : front ≠ [])
    (below : back ≠ []) (between : List Char) :
    isAnswer (front ++ back).length (join ['\n'] (front ++ between :: back)) = false := by
  have split := lines_trim_join_middle numbered.isLine between
    (fun none => absurd none above) (fun none => absurd none below)
  have positive := length_lines_pos between
  refine not_isAnswer_of_length split ?_
  simp only [List.length_append]
  omega

/-- A line with more text is no answer line, or it has become several lines. -/
theorem not_isAnswer_of_longer (numbered : Numbered (front ++ a :: back))
    (split : lines (trim text) = front ++ lines (a ++ more) ++ back)
    (visible : allBlank more = false) : isAnswer (front ++ a :: back).length text = false := by
  by_cases single : (lines (a ++ more)).length = 1
  · obtain ⟨line, only⟩ := List.length_eq_one_iff.mp single
    have joined := join_lines (a ++ more)
    rw [only] at joined
    have whole : line = a ++ more := joined
    rw [only, whole, List.append_assoc, List.singleton_append] at split
    have form := numbered.at_middle
    refine not_isAnswer_of_line split fun longer => ?_
    rw [trim_append_of_bare form.ne_nil form.trim_eq] at longer
    have empty := trimEnd_eq_nil_iff.mp (form.nothing_behind longer)
    rw [visible] at empty
    cases empty
  · refine not_isAnswer_of_length split ?_
    simp only [List.length_append, List.length_cons]
    omega

theorem not_isAnswer_extended (numbered : Numbered (front ++ a :: back))
    (visible : allBlank more = false) :
    isAnswer (front ++ a :: back).length (join ['\n'] (front ++ (a ++ more) :: back)) = false := by
  have form := numbered.at_middle
  have others := numbered.isLine_others
  have begins (cs : List Char) : a ++ cs ≠ [] ∧ blankAhead (a ++ cs) = false := by
    refine ⟨by simp [form.ne_nil], ?_⟩
    rw [blankAhead_append form.ne_nil, blankAhead_of_trim form.trim_eq]
  by_cases last : back = []
  · -- The blanks at the end of the text go first.
    subst last
    obtain ⟨pad, blank, ends⟩ := exists_trimEnd more
    have visible' : allBlank (trimEnd more) = false := by
      rw [ends] at visible
      simp only [allBlank, List.all_append, Bool.and_eq_false_iff] at visible blank ⊢
      simpa [blank] using visible
    have some : trimEnd more ≠ [] := by
      rintro none
      rw [none] at visible'
      cases visible'
    have trimmed : trim (join ['\n'] (front ++ [a ++ more])) =
        trim (join ['\n'] (front ++ [a ++ trimEnd more])) := by
      conv => lhs; rw [ends, ← List.append_assoc, join_last_append, trim_append_right blank]
    have split := lines_trim_join_middle others (a ++ trimEnd more) (fun _ => begins _)
      fun _ => ⟨(begins _).1, by
        rw [List.reverse_append, blankAhead_append (by simpa using some), blankAhead_reverse_trimEnd]⟩
    exact not_isAnswer_of_longer numbered (trimmed ▸ split) visible'
  · have split := lines_trim_join_middle others (a ++ more) (fun _ => begins _)
      fun none => absurd none last
    exact not_isAnswer_of_longer numbered split visible

theorem not_isAnswer_edited {edited : List (List Char)} (numbered : Numbered parts)
    (change : Edited parts edited) : isAnswer parts.length (join ['\n'] edited) = false := by
  cases change with
  | swap front a middle b back => exact numbered.not_isAnswer_swapped
  | drop front a back => exact numbered.not_isAnswer_dropped
  | insert above below _ => exact numbered.not_isAnswer_inserted above below _
  | extend front a more back visible => exact numbered.not_isAnswer_extended visible

end Numbered

end Edited

def answerLine (i : Nat) (x : String × Role) : List Char :=
  numbering i ++ [' '] ++ x.1.toList ++ [' ', 'i', 's', ' ', 'a', ' '] ++ x.2.word

def answerLines (told : Identities) : List (List Char) := told.mapIdx fun i x => answerLine (i + 1) x

section Written

variable {x : String × Role} {told : Identities}

theorem isA_phrase : IsA [' ', 'i', 's', ' ', 'a', ' '] := by
  have blank : Blanks [' '] := ⟨by decide, List.all_eq_true.mp (by decide)⟩
  exact ⟨[' '], ['i', 's'], [' '], ['a'], [' '], rfl, blank, SameText.refl _, blank,
    SameText.refl _, blank⟩

theorem isAnswerLine_answerLine (i : Nat) (isName : IsName x.1.toList) :
    IsAnswerLine i (answerLine i x) :=
  ⟨[' '], x.1.toList, [' ', 'i', 's', ' ', 'a', ' '], x.2.word, x.2, rfl,
    ⟨by decide, List.all_eq_true.mp (by decide)⟩, isName, isA_phrase, SameText.refl _⟩

theorem not_newline_mem_answerLine (i : Nat) (isName : IsName x.1.toList) :
    '\n' ∉ answerLine i x := by
  have digits : '\n' ∉ Nat.toDigits 10 i := fun inside =>
    absurd ((isRun_toDigits i).2 _ inside) (by decide)
  have letters : '\n' ∉ x.1.toList := fun inside => absurd (isName.2 _ inside) (by decide)
  have role : '\n' ∉ x.2.word := fun inside => absurd (x.2.isName_word.2 _ inside) (by decide)
  simp [answerLine, numbering, digits, letters, role]

theorem numbered_answerLines (names : ∀ x ∈ told, IsName x.1.toList) :
    Numbered (answerLines told) := by
  have form : ∀ i part, (answerLines told)[i]? = some part →
      ∃ x ∈ told, part = answerLine (i + 1) x := by
    intro i part found
    rw [answerLines, List.getElem?_mapIdx] at found
    obtain ⟨x, at_i, rfl⟩ := Option.map_eq_some_iff.mp found
    exact ⟨x, List.mem_of_getElem? at_i, rfl⟩
  constructor
  · intro i part found
    obtain ⟨x, member, rfl⟩ := form i part found
    exact isAnswerLine_answerLine _ (names x member)
  · intro part inside
    obtain ⟨i, found⟩ := List.mem_iff_getElem?.mp inside
    obtain ⟨x, member, rfl⟩ := form i part found
    exact not_newline_mem_answerLine _ (names x member)

/-- The check accepts the texts of the grammar and no others. The lines written for names and roles
are accepted for their number only, and not after one change to them. -/
theorem isAnswer_grammar :
    (∀ (count : Nat) (text : List Char), isAnswer count text = true ↔
      1 ≤ count ∧ (lines (trim text)).length = count ∧
        ∀ i line, (lines (trim text))[i]? = some line → IsAnswerLine (i + 1) (trim line)) ∧
    ∀ told : Identities, told ≠ [] → (∀ x ∈ told, IsName x.1.toList) →
      (∀ count, isAnswer count (join ['\n'] (answerLines told)) = true ↔ count = told.length) ∧
      ∀ edited, Edited (answerLines told) edited →
        isAnswer told.length (join ['\n'] edited) = false := by
  refine ⟨?_, ?_⟩
  · intro count text
    rw [isAnswer_iff_of_lines rfl, iff_and_self]
    rintro ⟨rfl, -⟩
    exact length_lines_pos _
  · intro told some names
    have numbered := numbered_answerLines names
    have length : (answerLines told).length = told.length := List.length_mapIdx
    refine ⟨fun count => ?_, fun edited change => ?_⟩
    · rw [numbered.isAnswer_iff (by simpa [answerLines] using some), length]
    · rw [← length]
      exact numbered.not_isAnswer_edited change

/-- The second of three lines with a word behind it, where a name is itself the word `is`. -/
theorem isAnswer_grammar_of_three :
    isAnswer 3 (join ['\n'] ["(1) Zoey is a knight".toList,
      "(2) is is a knave".toList ++ " indeed".toList, "(3) Al is a knight".toList]) = false := by
  have written : answerLines [("Zoey", .knight), ("is", .knave), ("Al", .knight)] =
      ["(1) Zoey is a knight".toList] ++ "(2) is is a knave".toList ::
        ["(3) Al is a knight".toList] := by decide_cbv
  have change := Edited.extend ["(1) Zoey is a knight".toList] "(2) is is a knave".toList
    " indeed".toList ["(3) Al is a knight".toList] (by decide)
  rw [← written] at change
  exact (isAnswer_grammar.2 _ (by decide) (by decide_cbv)).2 _ change

end Written

end PuzzlePrep

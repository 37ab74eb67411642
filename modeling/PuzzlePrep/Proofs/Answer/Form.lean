import PuzzlePrep.Proofs.Answer.Line

namespace PuzzlePrep

open Text

def IsAnswerLine (i : Nat) (line : List Char) : Prop :=
  ∃ gap name phrase word, ∃ role : Role, line = numbering i ++ gap ++ name ++ phrase ++ word ∧
    Blanks gap ∧ IsName name ∧ IsA phrase ∧ SameText role.word word

/-- Up to blanks around the text and around its lines, there are `count` answer lines, numbered from
one. -/
structure IsAnswerText (count : Nat) (text : List Char) : Prop where
  length : (lines (trim text)).length = count
  line : ∀ i line, (lines (trim text))[i]? = some line → IsAnswerLine (i + 1) (trim line)

theorem isSome_readAnswerLine?_iff {i : Nat} {line : List Char} :
    (readAnswerLine? i line).isSome = true ↔ IsAnswerLine i line := by
  rw [Option.isSome_iff_exists, Prod.exists]
  simp only [readAnswerLine?_eq_some_iff]
  constructor
  · rintro ⟨name, role, gap, phrase, word, form⟩
    exact ⟨gap, name, phrase, word, role, form⟩
  · rintro ⟨gap, name, phrase, word, role, form⟩
    exact ⟨name, role, gap, phrase, word, form⟩

theorem answerLinesFrom_iff {first : Nat} {lines : List (List Char)} :
    answerLinesFrom first lines = true ↔
      ∀ i line, lines[i]? = some line → IsAnswerLine (first + i) (trim line) := by
  induction lines generalizing first with
  | nil => simp [answerLinesFrom]
  | cons line rest ih =>
    rw [answerLinesFrom, Bool.and_eq_true, isSome_readAnswerLine?_iff, ih]
    constructor
    · rintro ⟨here, later⟩ i other found
      cases i with
      | zero =>
        cases found
        exact here
      | succ i =>
        have next := later i other found
        rwa [Nat.add_right_comm] at next
    · intro all
      refine ⟨all 0 line rfl, fun i other found => ?_⟩
      have next := all (i + 1) other found
      rwa [← Nat.add_assoc, Nat.add_right_comm] at next

theorem isAnswer_iff_isAnswerText {count : Nat} {text : List Char} :
    isAnswer count text = true ↔ IsAnswerText count text := by
  rw [isAnswer_iff, answerLinesFrom_iff]
  simp only [Nat.add_comm 1]
  exact ⟨fun ⟨length, line⟩ => ⟨length, line⟩, fun h => ⟨h.length, h.line⟩⟩

instance (count : Nat) : DecidablePred (IsAnswerText count) :=
  fun _ => decidable_of_iff _ isAnswer_iff_isAnswerText

theorem isAnswerText_trim {count : Nat} {text : List Char} :
    IsAnswerText count (trim text) ↔ IsAnswerText count text := by
  rw [← isAnswer_iff_isAnswerText, ← isAnswer_iff_isAnswerText, isAnswer_iff, isAnswer_iff, trim_trim]

section AnswerLine

variable {i : Nat} {line : List Char}

theorem IsAnswerLine.nothing_behind {more : List Char} (h : IsAnswerLine i line)
    (longer : IsAnswerLine i (line ++ more)) : more = [] := by
  obtain ⟨gap, name, phrase, word, role, rfl, blanks, isName, isA, same⟩ := h
  have read := isSome_readAnswerLine?_iff.mpr longer
  rw [readAnswerLine?_front i blanks isName isA same] at read
  by_contra some
  simp [some] at read

theorem toDigits_injective {i j : Nat} (same : Nat.toDigits 10 i = Nat.toDigits 10 j) : i = j := by
  have back := congrArg (Nat.ofDigitChars 10 · 0) same
  simpa using back

theorem IsAnswerLine.number_unique {j : Nat} (h : IsAnswerLine i line) (h' : IsAnswerLine j line) :
    i = j := by
  obtain ⟨gap, name, phrase, word, -, rfl, -⟩ := h
  obtain ⟨gap', name', phrase', word', -, split, -⟩ := h'
  simp only [List.append_assoc] at split
  rw [numbering_append, numbering_append, List.cons.injEq] at split
  -- The parenthesis ends the digits on both sides.
  obtain ⟨digits, -⟩ := run_unique split.2 (isRun_toDigits i).2 (isRun_toDigits j).2 (by rfl) (by rfl)
  exact toDigits_injective digits

theorem IsAnswerLine.ne_nil (h : IsAnswerLine i line) : line ≠ [] := by
  obtain ⟨gap, name, phrase, word, role, rfl, -⟩ := h
  simp [numbering]

theorem IsAnswerLine.trim_eq (h : IsAnswerLine i line) : trim line = line := by
  obtain ⟨gap, name, phrase, word, role, rfl, -, -, -, same⟩ := h
  apply trim_of_bare
  · simp only [List.append_assoc]
    rw [numbering_append]
    rfl
  · have isName := role.isName_word.of_sameText same
    have some : word.reverse ≠ [] := by simpa using isName.1
    rw [List.reverse_append, blankAhead_append some]
    obtain ⟨c, rest, split⟩ := List.exists_cons_of_ne_nil some
    have member : c ∈ word := by
      rw [← List.mem_reverse, split]
      exact List.mem_cons_self
    rw [split]
    exact isBlank_of_isWord (isName.isWord c member)

end AnswerLine

end PuzzlePrep

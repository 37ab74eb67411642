import PuzzlePrep.Proofs.Text.Lines
import PuzzlePrep.Proofs.Text.Newlines

namespace PuzzlePrep.Text

variable {word front back : List Char} {c : Char}

theorem startsWith_append_cons (inner : c ∉ word.tail) (some : front ≠ []) (back : List Char) :
    startsWith word (front ++ c :: back) = startsWith word front := by
  rw [Bool.eq_iff_iff, startsWith_iff, startsWith_iff]
  constructor
  · rintro ⟨rest, split⟩
    rcases List.append_eq_append_iff.mp split with ⟨gap, whole, border⟩ | ⟨gap, whole, -⟩
    · cases gap with
      | nil => exact ⟨[], by simpa using whole.symm⟩
      | cons d gap =>
        -- The word would go on over the border, which stands behind its first character.
        simp only [List.cons_append, List.cons.injEq] at border
        obtain ⟨a, front, rfl⟩ := List.exists_cons_of_ne_nil some
        have member : c ∈ word.tail := by simp [whole, border.1]
        exact absurd member inner
    · exact ⟨gap, whole⟩
  · rintro ⟨rest, split⟩
    exact ⟨rest ++ c :: back, by simp [split]⟩

theorem startsWith_cons_of_not_mem (proper : word ≠ []) (outside : c ∉ word) (back : List Char) :
    startsWith word (c :: back) = false := by
  cases word with
  | nil => exact absurd rfl proper
  | cons w word =>
    have other : w ≠ c := fun same => outside (by simp [same])
    simp [startsWith, after?, other]

theorem countOf_append_cons (proper : word ≠ []) (inner : c ∉ word.tail) (front back : List Char) :
    countOf word (front ++ c :: back) = countOf word front + countOf word (c :: back) := by
  induction front with
  | nil =>
    have empty : countOf word [] = 0 := by simp [countOf, startsWith, after?_nil proper]
    rw [empty, List.nil_append, Nat.zero_add]
  | cons d front ih =>
    have same := startsWith_append_cons inner (List.cons_ne_nil d front) back
    rw [List.cons_append] at same
    rw [List.cons_append, countOf, countOf, ih, same]
    omega

theorem countOf_cons_of_not_mem (proper : word ≠ []) (outside : c ∉ word) (back : List Char) :
    countOf word (c :: back) = countOf word back := by
  simp [countOf, startsWith_cons_of_not_mem proper outside]

theorem occurs_cons_of_not_mem (proper : word ≠ []) (outside : c ∉ word) :
    Occurs word (c :: back) ↔ Occurs word back := by
  simp [occurs_cons_iff, startsWith_cons_of_not_mem proper outside]

theorem occurs_append_cons_iff (proper : word ≠ []) (outside : c ∉ word) :
    Occurs word (front ++ c :: back) ↔ Occurs word front ∨ Occurs word back := by
  have inner : c ∉ word.tail := fun member => outside (List.mem_of_mem_tail member)
  have sum := countOf_append_cons proper inner front back
  rw [countOf_cons_of_not_mem proper outside] at sum
  rw [← not_iff_not, not_or, ← countOf_eq_zero_iff proper, ← countOf_eq_zero_iff proper,
    ← countOf_eq_zero_iff proper, sum, Nat.add_eq_zero_iff]

theorem not_occurs_nil (proper : word ≠ []) : ¬ Occurs word [] :=
  fun ⟨_, occurs⟩ => not_occursAt_empty proper occurs

section Trim

variable (proper : word ≠ []) (solid : ∀ d ∈ word, isBlank d = false)

include proper solid

theorem occurs_blank_append {pad : List Char} (blank : allBlank pad = true) (cs : List Char) :
    Occurs word (pad ++ cs) ↔ Occurs word cs := by
  induction pad with
  | nil => rfl
  | cons d pad ih =>
    simp only [allBlank, List.all_cons, Bool.and_eq_true] at blank
    have outside : d ∉ word := fun member => by simp [solid d member] at blank
    rw [List.cons_append, occurs_cons_of_not_mem proper outside, ih blank.2]

theorem not_occurs_of_allBlank {pad : List Char} (blank : allBlank pad = true) :
    ¬ Occurs word pad := by
  have bare := occurs_blank_append proper solid blank []
  rw [List.append_nil] at bare
  exact fun occurs => not_occurs_nil proper (bare.mp occurs)

theorem occurs_append_blank {pad : List Char} (blank : allBlank pad = true) (cs : List Char) :
    Occurs word (cs ++ pad) ↔ Occurs word cs := by
  cases pad with
  | nil => rw [List.append_nil]
  | cons d pad =>
    simp only [allBlank, List.all_cons, Bool.and_eq_true] at blank
    have outside : d ∉ word := fun member => by simp [solid d member] at blank
    rw [occurs_append_cons_iff proper outside]
    exact or_iff_left (not_occurs_of_allBlank proper solid blank.2)

/-- Trimming neither takes away a word without blanks nor brings one about. -/
theorem occurs_trim_iff (cs : List Char) : Occurs word (trim cs) ↔ Occurs word cs := by
  obtain ⟨pad, pad', blank, blank', split⟩ := exists_trim cs
  conv => rhs; rw [split]
  rw [occurs_append_blank proper solid blank', occurs_blank_append proper solid blank]

end Trim

theorem occurs_join_iff (proper : word ≠ []) (outside : c ∉ word) (parts : List (List Char)) :
    Occurs word (join [c] parts) ↔ ∃ part ∈ parts, Occurs word part := by
  induction parts with
  | nil => simp [join, not_occurs_nil proper]
  | cons part parts ih =>
    cases parts with
    | nil => simp [join]
    | cons next parts =>
      rw [join_cons_of_ne_nil _ _ (List.cons_ne_nil _ _), List.append_assoc, List.singleton_append,
        occurs_append_cons_iff proper outside, ih]
      simp only [List.mem_cons, exists_eq_or_imp]

section Newlines

theorem startsWith_unescapeNewlines (plain : '\\' ∉ word) (line : '\n' ∉ word) (cs : List Char) :
    startsWith word (unescapeNewlines cs) = startsWith word cs := by
  fun_induction unescapeNewlines cs generalizing word with
  | case1 rest ih =>
    cases word with
    | nil => rfl
    | cons w word =>
      rw [startsWith_cons_of_not_mem (List.cons_ne_nil w word) line,
        startsWith_cons_of_not_mem (List.cons_ne_nil w word) plain]
  | case2 d rest bare ih =>
    cases word with
    | nil => rfl
    | cons w word =>
      simp only [List.mem_cons, not_or] at plain line
      have later := ih plain.2 line.2
      by_cases same : w = d
      · simpa [startsWith, after?, same] using later
      · simp [startsWith, after?, same]
  | case3 => rfl

/-- A written newline is no part of the word, and its second character does not begin it. -/
theorem occurs_unescapeNewlines_iff (proper : word ≠ []) (plain : '\\' ∉ word) (line : '\n' ∉ word)
    (begins : word.head? ≠ some 'n') (cs : List Char) :
    Occurs word (unescapeNewlines cs) ↔ Occurs word cs := by
  fun_induction unescapeNewlines cs with
  | case1 rest ih =>
    have away : startsWith word ('n' :: rest) = false := by
      cases word with
      | nil => exact absurd rfl proper
      | cons w word =>
        have other : w ≠ 'n' := by simpa using begins
        simp [startsWith, after?, other]
    rw [occurs_cons_of_not_mem proper line, occurs_cons_of_not_mem proper plain, occurs_cons_iff,
      away, ih]
    simp
  | case2 d rest bare ih =>
    have same := startsWith_unescapeNewlines plain line (d :: rest)
    rw [unescapeNewlines.eq_2 d rest bare] at same
    rw [occurs_cons_iff, occurs_cons_iff, same, ih]
  | case3 => rfl

theorem occurs_normalizeNewlines_iff (proper : word ≠ []) (plain : '\\' ∉ word)
    (line : '\n' ∉ word) (begins : word.head? ≠ some 'n') (cs : List Char) :
    Occurs word (normalizeNewlines cs) ↔ Occurs word cs := by
  by_cases settled : Settled cs
  · rw [normalizeNewlines_of_settled settled]
  · rw [normalizeNewlines_of_not_settled settled,
      occurs_unescapeNewlines_iff proper plain line begins]

end Newlines

end PuzzlePrep.Text

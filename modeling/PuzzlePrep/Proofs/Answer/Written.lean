import PuzzlePrep.Proofs.Answer.Tagged

namespace PuzzlePrep

namespace Text

variable {word cs part : List Char} {parts more : List (List Char)} {c : Char}

/-- The pieces of a text between the places of the word: what stands before the first place, and then
the pieces of what is left behind it. -/
inductive Cuts (word : List Char) : List Char → List (List Char) → Prop
  | whole {cs : List Char} : ¬ Occurs word cs → Cuts word cs [cs]
  | piece {cs before rest : List Char} {more : List (List Char)} : cs = before ++ word ++ rest →
      (∀ earlier, OccursAt word earlier cs → before.length ≤ earlier.length) →
      Cuts word rest more → Cuts word cs (before :: more)

theorem Cuts.unique {parts' : List (List Char)} (proper : word ≠ []) (h : Cuts word cs parts)
    (h' : Cuts word cs parts') : parts = parts' := by
  induction h generalizing parts' with
  | whole none =>
    cases h' with
    | whole => rfl
    | piece split => exact absurd ⟨_, _, split⟩ none
  | piece split first _ ih =>
    cases h' with
    | whole none => exact absurd ⟨_, _, split⟩ none
    | piece split' first' rest' =>
      have cut := (cutAt?_eq_some_iff proper).mpr ⟨split, first⟩
      have cut' := (cutAt?_eq_some_iff proper).mpr ⟨split', first'⟩
      obtain ⟨rfl, rfl⟩ := Prod.mk.inj (Option.some.inj (cut.symm.trans cut'))
      rw [ih rest']

theorem Cuts.nil_cons (h : Cuts word cs parts) : Cuts word (word ++ cs) ([] :: parts) :=
  .piece rfl (fun _ _ => Nat.zero_le _) h

theorem Cuts.cons (away : startsWith word (c :: cs) = false) (h : Cuts word cs (part :: more)) :
    Cuts word (c :: cs) ((c :: part) :: more) := by
  cases h with
  | whole none =>
    apply Cuts.whole
    simp [occurs_cons_iff, away, none]
  | piece split first rest =>
    -- The first place is still the first one, one character later.
    have front : ¬ OccursAt word [] (c :: cs) := by simp [occursAt_nil, away]
    apply Cuts.piece (by simp [split]) _ rest
    exact (first_cons_iff front (fun _ _ => occursAt_cons_cons) _).mpr first

theorem cuts_lines_unescapeNewlines (plain : '\n' ∉ cs) :
    Cuts escapedNewline cs (lines (unescapeNewlines cs)) := by
  fun_induction unescapeNewlines cs with
  | case1 rest ih =>
    have plain : '\n' ∉ rest := fun member => plain (by simp [member])
    rw [lines, pieces_cons_sep (by simp)]
    exact (ih plain).nil_cons
  | case2 c rest bare ih =>
    -- Neither a written newline begins here nor a real one, so this is one more character of the
    -- first piece and of the first line.
    rw [List.mem_cons, not_or] at plain
    have away : startsWith escapedNewline (c :: rest) = false := by
      rw [Bool.eq_false_iff, Ne, startsWith_escapedNewline_iff]
      rintro ⟨same, behind, split⟩
      exact bare behind same split
    have inner : (c == '\n') = false := by simpa using Ne.symm plain.1
    obtain ⟨part, more, split⟩ := List.exists_cons_of_ne_nil (lines_ne_nil (unescapeNewlines rest))
    have cuts := ih plain.2
    rw [split] at cuts
    rw [lines, pieces_cons_of_eq (p := (· == '\n')) inner split]
    exact cuts.cons away
  | case3 => exact .whole (not_occurs_nil escapedNewline_ne_nil)

theorem cuts_escapedNewline_iff (plain : '\n' ∉ cs) :
    Cuts escapedNewline cs parts ↔ parts = lines (normalizeNewlines cs) := by
  have cuts := cuts_lines_unescapeNewlines plain
  rw [normalizeNewlines_of_not_mem plain]
  constructor
  · exact fun h => h.unique escapedNewline_ne_nil cuts
  · rintro rfl
    exact cuts

end Text

open Text

/-- Normalising leaves a text with newlines as it is and makes lines of the pieces of any other one.
It is never needed twice, leaves no written newline where there was no real one, and neither makes nor
breaks a tag. -/
theorem normalizeNewlines_settles (cs : List Char) :
    normalizeNewlines (normalizeNewlines cs) = normalizeNewlines cs ∧
    (Occurs escapedNewline (normalizeNewlines cs) → '\n' ∈ cs) ∧
    ('\n' ∈ cs → normalizeNewlines cs = cs) ∧
    ('\n' ∉ cs → ∀ parts,
      Cuts escapedNewline cs parts ↔ parts = lines (normalizeNewlines cs)) ∧
    normalizeNewlines (trim (normalizeNewlines (trim cs))) = trim (normalizeNewlines (trim cs)) ∧
    ∀ t : Tag, Occurs t.text (normalizeNewlines cs) ↔ Occurs t.text cs := by
  refine ⟨normalizeNewlines_normalizeNewlines cs, ?_, normalizeNewlines_of_mem, ?_,
    normalizeNewlines_trim cs, fun t => t.occurs_normalizeNewlines_iff cs⟩
  · intro written
    apply Classical.byContradiction
    intro plain
    rw [normalizeNewlines_of_not_mem plain] at written
    exact not_occurs_unescapeNewlines cs written
  · intro plain parts
    exact cuts_escapedNewline_iff plain

/-- Runs of backslashes and n, and a written newline that a real one at the end keeps as it is. -/
theorem normalizeNewlines_settles_of_runs :
    '\n' ∉ "\\\\nn\\n".toList ∧
    Cuts escapedNewline "\\\\nn\\n".toList ["\\".toList, "n".toList, []] ∧
    '\n' ∈ "A\\n\n".toList ∧ Occurs escapedNewline (normalizeNewlines "A\\n\n".toList) ∧
    normalizeNewlines "A\\n\n".toList = "A\\n\n".toList := by
  obtain ⟨-, -, -, cut, -⟩ := normalizeNewlines_settles "\\\\nn\\n".toList
  obtain ⟨-, real, same, -⟩ := normalizeNewlines_settles "A\\n\n".toList
  have plain : '\n' ∉ "\\\\nn\\n".toList := by decide
  have written : Occurs escapedNewline (normalizeNewlines "A\\n\n".toList) := by decide +kernel
  exact ⟨plain, (cut plain _).mpr (by decide +kernel), real written, written,
    same (real written)⟩

end PuzzlePrep

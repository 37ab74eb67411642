import PuzzlePrep.Proofs.Text.Blank
import PuzzlePrep.Proofs.Text.Occurrence

namespace PuzzlePrep.Text

/-- Where newlines are written, there is a real newline as well. -/
def Settled (cs : List Char) : Prop := Occurs escapedNewline cs → '\n' ∈ cs

theorem escapedNewline_ne_nil : escapedNewline ≠ [] := by decide

theorem normalizeNewlines_of_settled {cs : List Char} (settled : Settled cs) :
    normalizeNewlines cs = cs := by
  rw [normalizeNewlines, if_neg]
  intro unsettled
  simp only [Bool.and_eq_true, Bool.not_eq_true', contains_iff escapedNewline_ne_nil,
    List.contains_eq_mem, decide_eq_false_iff_not] at unsettled
  exact unsettled.2 (settled unsettled.1)

theorem normalizeNewlines_of_not_settled {cs : List Char} (unsettled : ¬ Settled cs) :
    normalizeNewlines cs = unescapeNewlines cs := by
  rw [normalizeNewlines, if_pos]
  simpa [contains_iff escapedNewline_ne_nil, Settled] using unsettled

theorem startsWith_escapedNewline_iff {c : Char} {cs : List Char} :
    startsWith escapedNewline (c :: cs) = true ↔ c = '\\' ∧ ∃ rest, cs = 'n' :: rest := by
  simp [startsWith_iff, escapedNewline]

theorem head_unescapeNewlines {cs rest : List Char} (h : unescapeNewlines cs = 'n' :: rest) :
    ∃ more, cs = 'n' :: more := by
  fun_cases unescapeNewlines cs <;> simp_all [unescapeNewlines]

/-- Written newlines do not come about where others are taken for newlines. -/
theorem not_occurs_unescapeNewlines (cs : List Char) :
    ¬ Occurs escapedNewline (unescapeNewlines cs) := by
  fun_induction unescapeNewlines cs with
  | case1 rest ih =>
    rw [occurs_cons_iff, startsWith_escapedNewline_iff]
    rintro (⟨same, -⟩ | occurs)
    · exact absurd same (by decide)
    · exact ih occurs
  | case2 c rest bare ih =>
    -- An n in front of what the rest becomes was in front of the rest, so a newline was written here.
    rw [occurs_cons_iff, startsWith_escapedNewline_iff]
    rintro (⟨same, more, split⟩ | occurs)
    · obtain ⟨later, rfl⟩ := head_unescapeNewlines split
      exact bare later same rfl
    · exact ih occurs
  | case3 => exact fun ⟨_, occurs⟩ => not_occursAt_empty escapedNewline_ne_nil occurs

theorem settled_of_not_occurs {cs : List Char} (none : ¬ Occurs escapedNewline cs) : Settled cs :=
  fun occurs => absurd occurs none

theorem settled_normalizeNewlines (cs : List Char) : Settled (normalizeNewlines cs) := by
  by_cases settled : Settled cs
  · rwa [normalizeNewlines_of_settled settled]
  · rw [normalizeNewlines_of_not_settled settled]
    exact settled_of_not_occurs (not_occurs_unescapeNewlines cs)

@[simp] theorem normalizeNewlines_normalizeNewlines (cs : List Char) :
    normalizeNewlines (normalizeNewlines cs) = normalizeNewlines cs :=
  normalizeNewlines_of_settled (settled_normalizeNewlines cs)

theorem unescapeNewlines_of_not_occurs {cs : List Char} (none : ¬ Occurs escapedNewline cs) :
    unescapeNewlines cs = cs := by
  fun_induction unescapeNewlines cs with
  | case1 rest ih => exact absurd ⟨[], rest, rfl⟩ none
  | case2 c rest bare ih => rw [ih fun occurs => none (occurs.append_left [c])]
  | case3 => rfl

theorem normalizeNewlines_of_mem {cs : List Char} (real : '\n' ∈ cs) : normalizeNewlines cs = cs :=
  normalizeNewlines_of_settled fun _ => real

theorem normalizeNewlines_of_not_mem {cs : List Char} (none : '\n' ∉ cs) :
    normalizeNewlines cs = unescapeNewlines cs := by
  by_cases written : Occurs escapedNewline cs
  · exact normalizeNewlines_of_not_settled fun settled => none (settled written)
  · rw [normalizeNewlines_of_settled (settled_of_not_occurs written),
      unescapeNewlines_of_not_occurs written]

section Pad

variable {front back : List Char}

theorem unescapeNewlines_append_left (blank : allBlank front = true) (cs : List Char) :
    unescapeNewlines (front ++ cs) = front ++ unescapeNewlines cs := by
  induction front with
  | nil => rfl
  | cons c front ih =>
    rw [allBlank, List.all_cons, Bool.and_eq_true] at blank
    have other : c ≠ '\\' := by
      rintro rfl
      exact absurd blank.1 (by decide)
    rw [List.cons_append, unescapeNewlines.eq_2 c _ fun _ same => absurd same other, ih blank.2]
    rfl

/-- Blanks behind a text do not complete a newline that is written at its end. -/
theorem unescapeNewlines_append_right (blank : allBlank back = true) (cs : List Char) :
    unescapeNewlines (cs ++ back) = unescapeNewlines cs ++ back := by
  fun_induction unescapeNewlines cs with
  | case1 rest ih => exact congrArg ('\n' :: ·) ih
  | case2 c rest bare ih =>
    -- The n of a written newline is no blank, so it would have stood in the text itself.
    have apart : ∀ more, c = '\\' → rest ++ back = 'n' :: more → False := by
      intro more same split
      cases rest with
      | nil =>
        rw [List.nil_append] at split
        have first := allBlank_iff.mp blank 'n' (by simp [split])
        exact absurd first (by decide)
      | cons d rest =>
        obtain ⟨rfl, -⟩ := List.cons.inj split
        exact bare rest same rfl
    rw [List.cons_append, unescapeNewlines.eq_2 c _ apart, ih, List.cons_append]
  | case3 => simpa [unescapeNewlines] using unescapeNewlines_append_left blank []

theorem trim_unescapeNewlines_trim (cs : List Char) :
    trim (unescapeNewlines (trim cs)) = trim (unescapeNewlines cs) := by
  obtain ⟨front, back, hf, hb, split⟩ := exists_trim cs
  conv => rhs; rw [split]
  rw [unescapeNewlines_append_right hb, unescapeNewlines_append_left hf, trim_pad hf hb]

end Pad

theorem Occurs.of_trim {word cs : List Char} (h : Occurs word (trim cs)) : Occurs word cs := by
  obtain ⟨front, back, -, -, split⟩ := exists_trim cs
  rw [split]
  exact (h.append_left front).append_right back

theorem normalizeNewlines_trim (cs : List Char) :
    normalizeNewlines (trim (normalizeNewlines (trim cs))) = trim (normalizeNewlines (trim cs)) := by
  apply normalizeNewlines_of_settled
  by_cases settled : Settled (trim cs)
  · rw [normalizeNewlines_of_settled settled, trim_trim]
    exact settled
  · rw [normalizeNewlines_of_not_settled settled]
    exact settled_of_not_occurs fun occurs => not_occurs_unescapeNewlines _ occurs.of_trim

end PuzzlePrep.Text

import Mathlib.Data.List.TakeWhile
import PuzzlePrep.Text.Blank

namespace PuzzlePrep.Text

def Blanks (cs : List Char) : Prop := cs ≠ [] ∧ ∀ c ∈ cs, isBlank c = true

def blankAhead : List Char → Bool
  | c :: _ => isBlank c
  | [] => false

theorem allBlank_iff {cs : List Char} : allBlank cs = true ↔ ∀ c ∈ cs, isBlank c = true := by
  simp [allBlank]

theorem Blanks.allBlank {cs : List Char} (h : Blanks cs) : allBlank cs = true :=
  allBlank_iff.mpr h.2

theorem trimStart_of_blankAhead {cs : List Char} (h : blankAhead cs = false) :
    trimStart cs = cs := by
  cases cs with
  | nil => rfl
  | cons c cs =>
    simp only [blankAhead] at h
    simp [trimStart, h]

theorem blankAhead_trimStart (cs : List Char) : blankAhead (trimStart cs) = false := by
  induction cs with
  | nil => rfl
  | cons c cs ih =>
    cases hc : isBlank c with
    | true => simpa [trimStart, hc] using ih
    | false => simp [trimStart, hc, blankAhead]

theorem trimStart_append {pad : List Char} (blank : allBlank pad = true) (cs : List Char) :
    trimStart (pad ++ cs) = trimStart cs := by
  exact List.dropWhile_append_of_pos (allBlank_iff.mp blank)

theorem trimStart_blank_cons {c : Char} (blank : isBlank c = true) (cs : List Char) :
    trimStart (c :: cs) = trimStart cs := by
  simp [trimStart, blank]

theorem exists_trimStart (cs : List Char) :
    ∃ pad, allBlank pad = true ∧ cs = pad ++ trimStart cs := by
  refine ⟨cs.takeWhile isBlank, ?_, (List.takeWhile_append_dropWhile).symm⟩
  exact List.all_takeWhile

theorem trimEnd_append {pad : List Char} (blank : allBlank pad = true) (cs : List Char) :
    trimEnd (cs ++ pad) = trimEnd cs := by
  have reversed : ∀ c ∈ pad.reverse, isBlank c = true := by
    simpa using allBlank_iff.mp blank
  simp only [trimEnd, List.reverse_append]
  rw [List.dropWhile_append_of_pos reversed]

theorem trimEnd_eq (cs : List Char) : trimEnd cs = (trimStart cs.reverse).reverse := rfl

theorem trimStart_eq_nil_iff {cs : List Char} : trimStart cs = [] ↔ allBlank cs = true := by
  rw [trimStart, List.dropWhile_eq_nil_iff, allBlank_iff]

theorem trimStart_append_right {cs : List Char} (text : trimStart cs ≠ []) (pad : List Char) :
    trimStart (cs ++ pad) = trimStart cs ++ pad := by
  induction cs with
  | nil => exact absurd rfl text
  | cons c cs ih =>
    cases hc : isBlank c with
    | true =>
      rw [List.cons_append, trimStart_blank_cons hc, trimStart_blank_cons hc]
      rw [trimStart_blank_cons hc] at text
      exact ih text
    | false => simp [trimStart, hc]

theorem trim_pad {front back : List Char} (hf : allBlank front = true) (hb : allBlank back = true)
    (cs : List Char) : trim (front ++ cs ++ back) = trim cs := by
  rw [List.append_assoc, trim, trimStart_append hf]
  by_cases text : trimStart cs = []
  · have blank : allBlank (cs ++ back) = true := by
      rw [trimStart_eq_nil_iff] at text
      simp_all [allBlank]
    rw [trimStart_eq_nil_iff.mpr blank, trim, text]
  · rw [trimStart_append_right text, trimEnd_append hb, trim]

theorem trim_append_left {front : List Char} (hf : allBlank front = true) (cs : List Char) :
    trim (front ++ cs) = trim cs := by
  simpa using trim_pad hf (rfl : allBlank [] = true) cs

theorem trim_append_right {back : List Char} (hb : allBlank back = true) (cs : List Char) :
    trim (cs ++ back) = trim cs := by
  simpa using trim_pad (rfl : allBlank [] = true) hb cs

theorem blankAhead_trimEnd {cs : List Char} (h : blankAhead cs = false) :
    blankAhead (trimEnd cs) = false := by
  cases cs with
  | nil => rfl
  | cons c cs =>
    have kept : trimStart cs.reverse ++ [c] = trimStart (c :: cs).reverse := by
      rw [List.reverse_cons]
      by_cases text : trimStart cs.reverse = []
      · have single : trimStart [c] = [c] := trimStart_of_blankAhead h
        rw [text, trimStart_append (trimStart_eq_nil_iff.mp text), single]
        rfl
      · exact (trimStart_append_right text _).symm
    rw [trimEnd_eq, ← kept]
    simpa [blankAhead] using h

theorem blankAhead_trim (cs : List Char) : blankAhead (trim cs) = false :=
  blankAhead_trimEnd (blankAhead_trimStart cs)

theorem blankAhead_reverse_trimEnd (cs : List Char) : blankAhead (trimEnd cs).reverse = false := by
  rw [trimEnd_eq, List.reverse_reverse]
  exact blankAhead_trimStart _

theorem blankAhead_reverse_trim (cs : List Char) : blankAhead (trim cs).reverse = false :=
  blankAhead_reverse_trimEnd _

theorem exists_trimEnd (cs : List Char) : ∃ pad, allBlank pad = true ∧ cs = trimEnd cs ++ pad := by
  obtain ⟨pad, blank, split⟩ := exists_trimStart cs.reverse
  refine ⟨pad.reverse, by simpa [allBlank] using blank, ?_⟩
  rw [trimEnd_eq, ← List.reverse_append, ← split, List.reverse_reverse]

theorem exists_trim (cs : List Char) :
    ∃ front back, allBlank front = true ∧ allBlank back = true ∧ cs = front ++ trim cs ++ back := by
  obtain ⟨front, hf, split⟩ := exists_trimStart cs
  obtain ⟨back, hb, rest⟩ := exists_trimEnd (trimStart cs)
  refine ⟨front, back, hf, hb, ?_⟩
  rw [List.append_assoc, trim, ← rest]
  exact split

theorem trim_subset (cs : List Char) : trim cs ⊆ cs := by
  obtain ⟨front, back, -, -, split⟩ := exists_trim cs
  intro c member
  rw [split]
  exact List.mem_append_left back (List.mem_append_right front member)

theorem trim_of_bare {cs : List Char} (front : blankAhead cs = false)
    (back : blankAhead cs.reverse = false) : trim cs = cs := by
  rw [trim, trimStart_of_blankAhead front, trimEnd_eq, trimStart_of_blankAhead back,
    List.reverse_reverse]

theorem blankAhead_append {cs : List Char} (some : cs ≠ []) (rest : List Char) :
    blankAhead (cs ++ rest) = blankAhead cs := by
  cases cs with
  | nil => exact absurd rfl some
  | cons c cs => rfl

theorem blankAhead_of_trim {cs : List Char} (bare : trim cs = cs) : blankAhead cs = false :=
  bare ▸ blankAhead_trim cs

theorem blankAhead_reverse_of_trim {cs : List Char} (bare : trim cs = cs) :
    blankAhead cs.reverse = false := bare ▸ blankAhead_reverse_trim cs

theorem trim_eq_nil_iff {cs : List Char} : trim cs = [] ↔ allBlank cs = true := by
  constructor
  · intro empty
    obtain ⟨front, back, hf, hb, split⟩ := exists_trim cs
    rw [empty, List.append_nil] at split
    rw [split, allBlank, List.all_append, Bool.and_eq_true]
    exact ⟨hf, hb⟩
  · intro blank
    simpa using trim_append_left blank []

theorem trimEnd_eq_nil_iff {cs : List Char} : trimEnd cs = [] ↔ allBlank cs = true := by
  rw [trimEnd_eq, List.reverse_eq_nil_iff, trimStart_eq_nil_iff, allBlank, allBlank, List.all_reverse]

/-- Behind a trimmed text only the end is trimmed. -/
theorem trim_append_of_bare {cs : List Char} (some : cs ≠ []) (bare : trim cs = cs)
    (more : List Char) : trim (cs ++ more) = cs ++ trimEnd more := by
  obtain ⟨pad, blank, split⟩ := exists_trimEnd more
  have whole : trim (cs ++ more) = trim (cs ++ trimEnd more) := by
    conv => lhs; rw [split, ← List.append_assoc, trim_append_right blank]
  rw [whole]
  by_cases none : trimEnd more = []
  · rw [none, List.append_nil, bare]
  · refine trim_of_bare ?_ ?_
    · rw [blankAhead_append some, blankAhead_of_trim bare]
    · rw [List.reverse_append, blankAhead_append (by simpa using none), blankAhead_reverse_trimEnd]

@[simp] theorem trim_trim (cs : List Char) : trim (trim cs) = trim cs :=
  trim_of_bare (blankAhead_trim cs) (blankAhead_reverse_trim cs)

end PuzzlePrep.Text

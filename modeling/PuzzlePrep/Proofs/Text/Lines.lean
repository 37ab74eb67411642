import PuzzlePrep.Proofs.Text.Blank
import PuzzlePrep.Text.Cut

namespace PuzzlePrep.Text

variable {p : Char → Bool} {c : Char}

theorem pieces_ne_nil (p : Char → Bool) (cs : List Char) : pieces p cs ≠ [] := by
  cases cs with
  | nil => simp [pieces]
  | cons c cs =>
    simp only [pieces]
    split
    · simp
    · split <;> simp

theorem pieces_cons_sep (sep : p c = true) (cs : List Char) :
    pieces p (c :: cs) = [] :: pieces p cs := by
  simp [pieces, sep]

theorem pieces_cons_of_eq {cs piece : List Char} {more : List (List Char)} (inner : p c = false)
    (h : pieces p cs = piece :: more) : pieces p (c :: cs) = (c :: piece) :: more := by
  simp [pieces, inner, h]

theorem pieces_append_sep (sep : p c = true) (front back : List Char) :
    pieces p (front ++ c :: back) = pieces p front ++ pieces p back := by
  induction front with
  | nil => simp [pieces, sep]
  | cons f front ih =>
    cases hf : p f with
    | true => simp [pieces_cons_sep hf, ih]
    | false =>
      obtain ⟨piece, more, split⟩ := List.exists_cons_of_ne_nil (pieces_ne_nil p front)
      rw [pieces_cons_of_eq hf split, List.cons_append]
      rw [split] at ih
      exact pieces_cons_of_eq hf ih

theorem pieces_of_all {cs : List Char} (inner : ∀ c ∈ cs, p c = false) : pieces p cs = [cs] := by
  induction cs with
  | nil => rfl
  | cons c cs ih =>
    exact pieces_cons_of_eq (inner c List.mem_cons_self)
      (ih fun d member => inner d (List.mem_cons_of_mem _ member))

theorem not_sep_of_mem_pieces {cs piece : List Char} (member : piece ∈ pieces p cs) :
    ∀ c ∈ piece, p c = false := by
  induction cs generalizing piece with
  | nil => simp_all [pieces]
  | cons c cs ih =>
    cases hc : p c with
    | true =>
      rw [pieces_cons_sep hc] at member
      rcases List.mem_cons.mp member with rfl | member
      · simp
      · exact ih member
    | false =>
      obtain ⟨first, more, split⟩ := List.exists_cons_of_ne_nil (pieces_ne_nil p cs)
      rw [pieces_cons_of_eq hc split] at member
      rw [split] at ih
      rcases List.mem_cons.mp member with rfl | member
      · intro d hd
        rcases List.mem_cons.mp hd with rfl | hd
        · exact hc
        · exact ih List.mem_cons_self d hd
      · exact ih (List.mem_cons_of_mem _ member)

/-- What is added at the end of a text is added to its last piece. -/
theorem exists_last_piece (p : Char → Bool) (cs : List Char) : ∃ front last,
    pieces p cs = front ++ [last] ∧ ∀ t, pieces p (cs ++ t) = front ++ pieces p (last ++ t) := by
  induction cs with
  | nil => exact ⟨[], [], rfl, fun _ => rfl⟩
  | cons c cs ih =>
    obtain ⟨front, last, split, longer⟩ := ih
    cases hc : p c with
    | true =>
      refine ⟨[] :: front, last, by rw [pieces_cons_sep hc, split]; rfl, ?_⟩
      intro t
      rw [List.cons_append, pieces_cons_sep hc, longer]
      rfl
    | false =>
      cases front with
      | nil =>
        refine ⟨[], c :: last, pieces_cons_of_eq hc split, ?_⟩
        intro t
        obtain ⟨piece, more, more_split⟩ := List.exists_cons_of_ne_nil (pieces_ne_nil p (last ++ t))
        have whole : pieces p (cs ++ t) = piece :: more := (longer t).trans more_split
        rw [List.cons_append, pieces_cons_of_eq hc whole, List.cons_append, List.nil_append,
          pieces_cons_of_eq hc more_split]
      | cons first front =>
        refine ⟨(c :: first) :: front, last, pieces_cons_of_eq hc split, ?_⟩
        intro t
        exact pieces_cons_of_eq hc (longer t)

theorem join_cons_of_ne_nil (sep t : List Char) {more : List (List Char)} (h : more ≠ []) :
    join sep (t :: more) = t ++ sep ++ join sep more := by
  cases more with
  | nil => exact absurd rfl h
  | cons u more => rfl

theorem join_append (sep : List Char) {xs ys : List (List Char)} (hx : xs ≠ []) (hy : ys ≠ []) :
    join sep (xs ++ ys) = join sep xs ++ sep ++ join sep ys := by
  induction xs with
  | nil => exact absurd rfl hx
  | cons x xs ih =>
    cases xs with
    | nil => exact join_cons_of_ne_nil sep x hy
    | cons x' xs =>
      have more : x' :: xs ++ ys ≠ [] := by simp
      rw [List.cons_append, join_cons_of_ne_nil sep x more, ih (List.cons_ne_nil _ _),
        join_cons_of_ne_nil sep x (List.cons_ne_nil x' xs)]
      simp only [List.append_assoc]

theorem not_mem_join {sep : List Char} {parts : List (List Char)} (apart : c ∉ sep)
    (free : ∀ part ∈ parts, c ∉ part) : c ∉ join sep parts := by
  induction parts with
  | nil => simp [join]
  | cons part parts ih =>
    obtain ⟨head, tail⟩ := List.forall_mem_cons.mp free
    by_cases last : parts = []
    · simpa [last, join] using head
    · simp [join_cons_of_ne_nil _ _ last, head, apart, ih tail]

theorem join_pieces (c : Char) (cs : List Char) : join [c] (pieces (· == c) cs) = cs := by
  induction cs with
  | nil => rfl
  | cons d cs ih =>
    obtain ⟨piece, more, split⟩ := List.exists_cons_of_ne_nil (pieces_ne_nil (· == c) cs)
    by_cases same : d = c
    · subst same
      rw [pieces_cons_sep (by simp), join_cons_of_ne_nil _ _ (pieces_ne_nil _ _), ih]
      rfl
    · rw [pieces_cons_of_eq (by simpa using same) split]
      rw [split] at ih
      cases more with
      | nil => exact congrArg (d :: ·) ih
      | cons u more => exact congrArg (d :: ·) ih

theorem pieces_join {c : Char} {parts : List (List Char)} (some : parts ≠ [])
    (inner : ∀ part ∈ parts, c ∉ part) : pieces (· == c) (join [c] parts) = parts := by
  induction parts with
  | nil => exact absurd rfl some
  | cons part parts ih =>
    have plain : pieces (· == c) part = [part] := by
      apply pieces_of_all
      intro d member
      have other : d ≠ c := fun same => inner part List.mem_cons_self (same ▸ member)
      simpa using other
    by_cases last : parts = []
    · subst last
      exact plain
    · have rest := ih last fun part member => inner part (List.mem_cons_of_mem _ member)
      rw [join_cons_of_ne_nil _ _ last, List.append_assoc, List.singleton_append,
        pieces_append_sep (by simp), plain, rest, List.singleton_append]

theorem lines_ne_nil (cs : List Char) : lines cs ≠ [] := pieces_ne_nil _ _

theorem join_lines (cs : List Char) : join ['\n'] (lines cs) = cs := join_pieces _ _

theorem lines_join {parts : List (List Char)} (some : parts ≠ []) :
    lines (join ['\n'] parts) = parts.flatMap lines := by
  induction parts with
  | nil => exact absurd rfl some
  | cons part parts ih =>
    by_cases last : parts = []
    · simp [last, join]
    · have split : lines (part ++ '\n' :: join ['\n'] parts) =
          lines part ++ lines (join ['\n'] parts) := pieces_append_sep (by simp) _ _
      rw [join_cons_of_ne_nil _ _ last, List.append_assoc, List.singleton_append, split, ih last,
        List.flatMap_cons]

theorem lines_of_whole {cs : List Char} (whole : '\n' ∉ cs) : lines cs = [cs] := by
  apply pieces_of_all
  intro c member
  have other : c ≠ '\n' := fun same => whole (same ▸ member)
  simpa using other

theorem length_lines_pos (cs : List Char) : 0 < (lines cs).length :=
  List.length_pos_iff.mpr (lines_ne_nil cs)

section Ends

variable {sep part last : List Char}

theorem blankAhead_join (some : part ≠ []) (more : List (List Char)) :
    blankAhead (join sep (part :: more)) = blankAhead part := by
  by_cases single : more = []
  · simp [single, join]
  · rw [join_cons_of_ne_nil _ _ single, List.append_assoc, blankAhead_append some]

theorem blankAhead_reverse_join (some : last ≠ []) (more : List (List Char)) :
    blankAhead (join sep (more ++ [last])).reverse = blankAhead last.reverse := by
  by_cases single : more = []
  · simp [single, join]
  · rw [join_append _ single (List.cons_ne_nil _ _), List.reverse_append,
      blankAhead_append (by simpa [join] using some)]
    rfl

theorem join_last_append (before : List (List Char)) (cs pad : List Char) :
    join sep (before ++ [cs ++ pad]) = join sep (before ++ [cs]) ++ pad := by
  by_cases first : before = []
  · simp [first, join]
  · rw [join_append _ first (List.cons_ne_nil _ _), join_append _ first (List.cons_ne_nil _ _)]
    simp [join]

/-- Where no blank stands at the front of the first part or at the end of the last one, the text is
trimmed. -/
theorem trim_join {parts : List (List Char)}
    (front : ∀ part ∈ parts.head?, part ≠ [] ∧ blankAhead part = false)
    (back : ∀ part ∈ parts.getLast?, part ≠ [] ∧ blankAhead part.reverse = false) :
    trim (join sep parts) = join sep parts := by
  by_cases empty : parts = []
  · simp [empty, join]
  · apply trim_of_bare
    · obtain ⟨part, more, rfl⟩ := List.exists_cons_of_ne_nil empty
      obtain ⟨some, bare⟩ := front part rfl
      rw [blankAhead_join some, bare]
    · obtain ⟨more, last, rfl⟩ := (List.eq_nil_or_concat parts).resolve_left empty
      rw [List.concat_eq_append] at back ⊢
      obtain ⟨some, bare⟩ := back last (by simp)
      rw [blankAhead_reverse_join some, bare]

theorem trim_join_of_bare {parts : List (List Char)}
    (bare : ∀ part ∈ parts, part ≠ [] ∧ trim part = part) :
    trim (join sep parts) = join sep parts := by
  apply trim_join
  · intro part first
    obtain ⟨some, trimmed⟩ := bare part (List.mem_of_mem_head? first)
    exact ⟨some, blankAhead_of_trim trimmed⟩
  · intro part last
    obtain ⟨some, trimmed⟩ := bare part (List.mem_of_mem_getLast? last)
    exact ⟨some, blankAhead_reverse_of_trim trimmed⟩

end Ends

section Whole

variable {parts front back : List (List Char)}

/-- A line as it is written: not empty, trimmed and in one piece. -/
def IsLine (line : List Char) : Prop := line ≠ [] ∧ trim line = line ∧ '\n' ∉ line

theorem flatMap_lines_of_isLine (proper : ∀ part ∈ parts, IsLine part) :
    parts.flatMap lines = parts := by
  induction parts with
  | nil => rfl
  | cons part parts ih =>
    obtain ⟨⟨-, -, whole⟩, tail⟩ := List.forall_mem_cons.mp proper
    rw [List.flatMap_cons, lines_of_whole whole, ih tail, List.singleton_append]

theorem lines_trim_join (some : parts ≠ []) (proper : ∀ part ∈ parts, IsLine part) :
    lines (trim (join ['\n'] parts)) = parts := by
  rw [trim_join_of_bare fun part member => ⟨(proper part member).1, (proper part member).2.1⟩,
    lines_join some, flatMap_lines_of_isLine proper]

/-- Lines around any text stay what they are, unless the text stands at an end and has blanks there. -/
theorem lines_trim_join_middle (proper : ∀ part ∈ front ++ back, IsLine part) (cs : List Char)
    (begins : front = [] → cs ≠ [] ∧ blankAhead cs = false)
    (ends : back = [] → cs ≠ [] ∧ blankAhead cs.reverse = false) :
    lines (trim (join ['\n'] (front ++ cs :: back))) = front ++ lines cs ++ back := by
  obtain ⟨above, below⟩ := List.forall_mem_append.mp proper
  rw [trim_join, lines_join (by simp), List.flatMap_append, List.flatMap_cons,
    flatMap_lines_of_isLine above, flatMap_lines_of_isLine below, List.append_assoc]
  · intro part first
    cases front with
    | nil =>
      cases first
      exact begins rfl
    | cons line front =>
      cases first
      obtain ⟨some, trimmed, -⟩ := above part List.mem_cons_self
      exact ⟨some, blankAhead_of_trim trimmed⟩
  · intro part last
    rw [List.getLast?_append, List.getLast?_cons] at last
    cases final : back.getLast? with
    | none =>
      rw [final] at last
      cases last
      exact ends (List.getLast?_eq_none_iff.mp final)
    | some line =>
      rw [final] at last
      cases last
      obtain ⟨some, trimmed, -⟩ := below line (List.mem_of_getLast? final)
      exact ⟨some, blankAhead_reverse_of_trim trimmed⟩

end Whole

section Trimmed

variable {β : Type} {read : List Char → Option β}

theorem filterMap_lines_blank_cons (empty : read [] = none) (blank : isBlank c = true)
    (cs : List Char) :
    (lines (c :: cs)).filterMap (read <| trim ·) = (lines cs).filterMap (read <| trim ·) := by
  by_cases newline : c = '\n'
  · subst newline
    have split : lines ('\n' :: cs) = [] :: lines cs := pieces_cons_sep (by simp) cs
    simp [split, empty]
  · obtain ⟨piece, more, split⟩ := List.exists_cons_of_ne_nil (lines_ne_nil cs)
    have longer : lines (c :: cs) = (c :: piece) :: more :=
      pieces_cons_of_eq (by simpa using newline) split
    have front : allBlank [c] = true := by simp [allBlank, blank]
    have same : trim (c :: piece) = trim piece := trim_append_left front piece
    simp [longer, split, List.filterMap_cons, same]

theorem filterMap_lines_snoc_blank (empty : read [] = none) (blank : isBlank c = true)
    (cs : List Char) :
    (lines (cs ++ [c])).filterMap (read <| trim ·) = (lines cs).filterMap (read <| trim ·) := by
  by_cases newline : c = '\n'
  · subst newline
    have split : lines (cs ++ ['\n']) = lines cs ++ [[]] := pieces_append_sep (by simp) cs []
    simp [split, empty]
  · obtain ⟨front, last, split, longer⟩ := exists_last_piece (· == '\n') cs
    have lastPiece : last ∈ pieces (· == '\n') cs := by simp [split]
    have inner : ∀ d ∈ last, (d == '\n') = false := not_sep_of_mem_pieces lastPiece
    have whole : lines (cs ++ [c]) = front ++ [last ++ [c]] := by
      rw [lines, longer, pieces_of_all]
      intro d member
      rcases List.mem_append.mp member with member | member
      · exact inner d member
      · simpa [List.mem_singleton.mp member] using newline
    have back : allBlank [c] = true := by simp [allBlank, blank]
    have same : trim (last ++ [c]) = trim last := trim_append_right back last
    rw [whole, show lines cs = front ++ [last] from split]
    simp [List.filterMap_append, List.filterMap_cons, same]

theorem filterMap_lines_blank_append (empty : read [] = none) {front : List Char}
    (blank : allBlank front = true) (cs : List Char) :
    (lines (front ++ cs)).filterMap (read <| trim ·) = (lines cs).filterMap (read <| trim ·) := by
  induction front with
  | nil => rfl
  | cons c front ih =>
    simp only [allBlank, List.all_cons, Bool.and_eq_true] at blank
    rw [List.cons_append, filterMap_lines_blank_cons empty blank.1]
    exact ih blank.2

theorem filterMap_lines_append_blank (empty : read [] = none) {back : List Char}
    (blank : allBlank back = true) (cs : List Char) :
    (lines (cs ++ back)).filterMap (read <| trim ·) = (lines cs).filterMap (read <| trim ·) := by
  induction back generalizing cs with
  | nil => rw [List.append_nil]
  | cons c back ih =>
    simp only [allBlank, List.all_cons, Bool.and_eq_true] at blank
    rw [List.append_cons, ih blank.2, filterMap_lines_snoc_blank empty blank.1]

theorem filterMap_lines_trim (empty : read [] = none) (cs : List Char) :
    (lines (trim cs)).filterMap (read <| trim ·) = (lines cs).filterMap (read <| trim ·) := by
  obtain ⟨front, back, hf, hb, split⟩ := exists_trim cs
  conv => rhs; rw [split]
  rw [filterMap_lines_append_blank empty hb, filterMap_lines_blank_append empty hf]

end Trimmed

end PuzzlePrep.Text

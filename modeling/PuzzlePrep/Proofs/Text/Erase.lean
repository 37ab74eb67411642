import PuzzlePrep.Proofs.Text.Newlines

namespace PuzzlePrep.Text

variable {words : List (List Char)} {word cs : List Char}

instance : Decidable (Occurs word cs) :=
  decidable_of_iff (word = [] ∨ contains word cs = true) (by
    by_cases proper : word = []
    · subst proper
      have anywhere : Occurs [] cs := ⟨[], cs, rfl⟩
      simp [anywhere]
    · simp [proper, contains_iff proper])

theorem Occurs.of_append_left {front : List Char} (h : Occurs (front ++ word) cs) :
    Occurs word cs := by
  obtain ⟨before, rest, rfl⟩ := h
  exact ⟨before ++ front, rest, by simp⟩

theorem eraseFrom_eq_drop (words : List (List Char)) (n : Nat) (cs : List Char) :
    eraseFrom words n cs = erase words (cs.drop n) := by
  induction cs generalizing n with
  | nil => simp [eraseFrom, erase]
  | cons c cs ih =>
    cases n with
    | zero => rfl
    | succ n => simpa [eraseFrom] using ih n

theorem erase_cons_of_away {c : Char} (away : ∀ w ∈ words, startsWith w (c :: cs) = false) :
    erase words (c :: cs) = c :: erase words cs := by
  have none : lengthAtStart? words (c :: cs) = none := by
    rw [lengthAtStart?, Option.map_eq_none_iff, List.find?_eq_none]
    intro w member
    simp [away w member]
  simp [erase, eraseFrom, none]

theorem exists_erased_of_starts (proper : ∀ w ∈ words, w ≠ []) (member : word ∈ words)
    (starts : startsWith word cs = true) :
    ∃ w ∈ words, ∃ rest, cs = w ++ rest ∧ erase words cs = erase words rest := by
  cases found : words.find? (startsWith · cs) with
  | none => exact absurd starts (List.find?_eq_none.mp found word member)
  | some w =>
    have among := List.mem_of_find?_eq_some found
    have front : startsWith w cs = true := by simpa using List.find?_some found
    obtain ⟨rest, split⟩ := startsWith_iff.mp front
    refine ⟨w, among, rest, split, ?_⟩
    cases w with
    | nil => exact absurd rfl (proper [] among)
    | cons c w =>
      subst split
      have length : lengthAtStart? words (c :: (w ++ rest)) = some (w.length + 1) := by
        rw [lengthAtStart?, ← List.cons_append, found]
        rfl
      rw [List.cons_append, erase, eraseFrom, length]
      show eraseFrom words w.length (w ++ rest) = erase words rest
      rw [eraseFrom_eq_drop, List.drop_left]

/-- The pass over a text: at its end, at one of the words, or at a character that stays. -/
theorem erase_induction {motive : List Char → Prop} (proper : ∀ w ∈ words, w ≠ [])
    (nil : motive [])
    (erased : ∀ w ∈ words, ∀ rest, erase words (w ++ rest) = erase words rest → motive rest →
      motive (w ++ rest))
    (kept : ∀ c cs, (∀ w ∈ words, startsWith w (c :: cs) = false) → motive cs → motive (c :: cs))
    (cs : List Char) : motive cs := by
  induction length : cs.length using Nat.strongRecOn generalizing cs with
  | _ n ih =>
    subst length
    cases cs with
    | nil => exact nil
    | cons c cs =>
      by_cases here : ∃ w ∈ words, startsWith w (c :: cs) = true
      · obtain ⟨word, member, starts⟩ := here
        obtain ⟨w, among, rest, split, gone⟩ := exists_erased_of_starts proper member starts
        have positive := List.length_pos_iff.mpr (proper w among)
        rw [split] at gone ⊢
        refine erased w among rest gone (ih rest.length ?_ rest rfl)
        rw [split, List.length_append]
        omega
      · have away : ∀ w ∈ words, startsWith w (c :: cs) = false := by simpa using here
        exact kept c cs away (ih cs.length (Nat.lt_succ_self _) cs rfl)

theorem erase_sublist (proper : ∀ w ∈ words, w ≠ []) (cs : List Char) :
    (erase words cs).Sublist cs := by
  induction cs using erase_induction proper with
  | nil => exact List.Sublist.refl _
  | erased w member rest gone ih =>
    rw [gone]
    exact ih.trans (List.sublist_append_right w rest)
  | kept c cs away ih =>
    rw [erase_cons_of_away away]
    exact ih.cons_cons c

theorem erase_eq_self_iff (proper : ∀ w ∈ words, w ≠ []) (cs : List Char) :
    erase words cs = cs ↔ ∀ w ∈ words, ¬ Occurs w cs := by
  induction cs using erase_induction proper with
  | nil =>
    have absent : ∀ w ∈ words, ¬ Occurs w [] :=
      fun w member ⟨_, at'⟩ => not_occursAt_empty (proper w member) at'
    exact iff_of_true rfl absent
  | erased w member rest gone ih =>
    have occurs : Occurs w (w ++ rest) := ⟨[], rest, rfl⟩
    refine iff_of_false ?_ fun absent => absent w member occurs
    intro same
    have shorter := (erase_sublist proper rest).length_le
    have positive := List.length_pos_iff.mpr (proper w member)
    rw [← gone, same, List.length_append] at shorter
    omega
  | kept c cs away ih =>
    rw [erase_cons_of_away away, List.cons_inj_right, ih]
    refine forall₂_congr fun w member => ?_
    simp [occurs_cons_iff, away w member]

/-- The beginning of `word`, neither nothing nor all of it, stands right before one of `words`. -/
def Interrupted (words : List (List Char)) (word cs : List Char) : Prop :=
  ∃ n < word.length, 0 < n ∧ ∃ w ∈ words, Occurs (word.take n ++ w) cs

instance : Decidable (Interrupted words word cs) :=
  inferInstanceAs (Decidable (∃ n < word.length, 0 < n ∧ ∃ w ∈ words, Occurs (word.take n ++ w) cs))

theorem Interrupted.append_left (h : Interrupted words word cs) (front : List Char) :
    Interrupted words word (front ++ cs) := by
  obtain ⟨n, part, positive, w, member, occurs⟩ := h
  exact ⟨n, part, positive, w, member, occurs.append_left front⟩

theorem Interrupted.of_subset {more : List (List Char)} (h : Interrupted words word cs)
    (subset : words ⊆ more) : Interrupted more word cs := by
  obtain ⟨n, part, positive, w, member, occurs⟩ := h
  exact ⟨n, part, positive, w, subset member, occurs⟩

/-- What begins the rest began the text, or is interrupted in it. -/
theorem prefix_of_prefix_erase (proper : ∀ w ∈ words, w ≠ []) (start : word <+: erase words cs) :
    word <+: cs ∨ ∃ n < word.length, ∃ w ∈ words, word.take n ++ w <+: cs := by
  induction cs using erase_induction proper generalizing word with
  | nil => exact Or.inl start
  | erased w member rest gone ih =>
    cases word with
    | nil => exact Or.inl List.nil_prefix
    | cons a word => exact Or.inr ⟨0, Nat.succ_pos _, w, member, List.prefix_append w rest⟩
  | kept c cs away ih =>
    rw [erase_cons_of_away away] at start
    cases word with
    | nil => exact Or.inl List.nil_prefix
    | cons a word =>
      obtain ⟨rfl, behind⟩ := List.cons_prefix_cons.mp start
      rcases ih behind with whole | ⟨n, part, w, member, broken⟩
      · exact Or.inl (List.cons_prefix_cons.mpr ⟨rfl, whole⟩)
      · exact Or.inr ⟨n + 1, Nat.succ_lt_succ part, w, member,
          List.cons_prefix_cons.mpr ⟨rfl, broken⟩⟩

/-- A word in what is left was there before, or was put together by what was erased. -/
theorem occurs_of_occurs_erase (proper : ∀ w ∈ words, w ≠ []) (text : word ≠ [])
    (occurs : Occurs word (erase words cs)) :
    (word ∉ words ∧ Occurs word cs) ∨ Interrupted words word cs := by
  induction cs using erase_induction proper with
  | nil =>
    obtain ⟨before, at'⟩ := occurs
    exact absurd at' (not_occursAt_empty text)
  | erased w member rest gone ih =>
    rw [gone] at occurs
    rcases ih occurs with ⟨other, before⟩ | broken
    · exact Or.inl ⟨other, before.append_left w⟩
    · exact Or.inr (broken.append_left w)
  | kept c cs away ih =>
    rw [erase_cons_of_away away, occurs_cons_iff, startsWith_iff] at occurs
    rcases occurs with ⟨rest, split⟩ | behind
    · cases word with
      | nil => exact absurd rfl text
      | cons a word =>
        rw [List.cons_append, List.cons.injEq] at split
        obtain ⟨rfl, split⟩ := split
        rcases prefix_of_prefix_erase proper ⟨rest, split.symm⟩ with ⟨more, whole⟩ | broken
        · have start : c :: cs = (c :: word) ++ more := by rw [List.cons_append, whole]
          refine Or.inl ⟨?_, [], more, by simpa using start⟩
          intro member
          have starts := startsWith_iff.mpr ⟨more, start⟩
          rw [away _ member] at starts
          cases starts
        · obtain ⟨n, part, w, member, more, found⟩ := broken
          refine Or.inr ⟨n + 1, Nat.succ_lt_succ part, Nat.succ_pos n, w, member, [], more, ?_⟩
          simpa using found.symm
    · rcases ih behind with ⟨other, before⟩ | broken
      · exact Or.inl ⟨other, before.append_left [c]⟩
      · exact Or.inr (broken.append_left [c])

end PuzzlePrep.Text

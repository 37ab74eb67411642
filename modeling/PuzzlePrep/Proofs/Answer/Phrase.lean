import Mathlib.Data.List.TakeDrop
import PuzzlePrep.Answer.Format
import PuzzlePrep.Proofs.Text.Letter

namespace PuzzlePrep

namespace Text

theorem afterFolded?_eq_some_iff {word cs rest : List Char} :
    afterFolded? word cs = some rest ↔ ∃ v, cs = v ++ rest ∧ SameText word v := by
  induction word generalizing cs with
  | nil => simp [afterFolded?, sameText_nil_left]
  | cons w word ih =>
    cases cs with
    | nil =>
      simp only [afterFolded?, reduceCtorEq, false_iff]
      rintro ⟨v, split, same⟩
      cases v with
      | nil => simpa using same.length
      | cons => simp at split
    | cons c cs =>
      by_cases letter : sameLetter w c = true
      · simp only [afterFolded?, letter, if_true, ih]
        constructor
        · rintro ⟨v, rfl, same⟩
          exact ⟨c :: v, rfl, sameText_cons.mpr ⟨letter, same⟩⟩
        · rintro ⟨v, split, same⟩
          cases v with
          | nil => simpa using same.length
          | cons d v =>
            simp only [List.cons_append, List.cons.injEq] at split
            exact ⟨v, split.2, (sameText_cons.mp same).2⟩
      · simp only [afterFolded?, letter]
        constructor
        · intro impossible
          simp at impossible
        · rintro ⟨v, split, same⟩
          cases v with
          | nil => simpa using same.length
          | cons d v =>
            simp only [List.cons_append, List.cons.injEq] at split
            rw [split.1] at letter
            exact absurd (sameText_cons.mp same).1 letter

theorem afterBlanks?_eq_some_iff {cs rest : List Char} :
    afterBlanks? cs = some rest ↔ ∃ b, Blanks b ∧ cs = b ++ rest ∧ blankAhead rest = false := by
  cases cs with
  | nil =>
    simp only [afterBlanks?, reduceCtorEq, false_iff]
    rintro ⟨b, blanks, split, -⟩
    exact blanks.1 (List.append_eq_nil_iff.mp split.symm).1
  | cons c cs =>
    constructor
    · intro h
      simp only [afterBlanks?] at h
      split at h
      · rename_i blank
        cases h
        obtain ⟨pad, all, split⟩ := exists_trimStart cs
        refine ⟨c :: pad, ⟨List.cons_ne_nil _ _, ?_⟩, by rw [List.cons_append, ← split],
          blankAhead_trimStart cs⟩
        intro d member
        rcases List.mem_cons.mp member with rfl | member
        · exact blank
        · exact allBlank_iff.mp all d member
      · cases h
    · rintro ⟨b, blanks, split, bare⟩
      cases b with
      | nil => exact absurd rfl blanks.1
      | cons d b =>
        simp only [List.cons_append, List.cons.injEq] at split
        obtain ⟨rfl, rfl⟩ := split
        have all : allBlank b = true :=
          allBlank_iff.mpr fun e member => blanks.2 e (List.mem_cons_of_mem _ member)
        simp [afterBlanks?, blanks.2 c List.mem_cons_self, trimStart_append all,
          trimStart_of_blankAhead bare]

theorem isWord_of_allBlank {pad : List Char} (blank : allBlank pad = true) :
    ∀ c ∈ pad, isWord c = false :=
  fun c member => isWord_of_isBlank (allBlank_iff.mp blank c member)

theorem Blanks.not_isWord {b : List Char} (h : Blanks b) : ∀ c ∈ b, isWord c = false :=
  fun c member => isWord_of_isBlank (h.2 c member)

theorem wordAhead_of_uniform {cs : List Char} {b : Bool} (some : cs ≠ [])
    (same : ∀ c ∈ cs, isWord c = b) (rest : List Char) : wordAhead (cs ++ rest) = b := by
  obtain ⟨c, cs, rfl⟩ := List.exists_cons_of_ne_nil some
  exact same c List.mem_cons_self

theorem Blanks.wordAhead_append {b : List Char} (h : Blanks b) (rest : List Char) :
    wordAhead (b ++ rest) = false := wordAhead_of_uniform h.1 h.not_isWord rest

def letterAhead : List Char → Bool
  | c :: _ => isLetter c
  | [] => false

theorem spanLetters?_eq_some_iff {cs letters rest : List Char} :
    spanLetters? cs = some (letters, rest) ↔ cs = letters ++ rest ∧ letters ≠ [] ∧
      (∀ c ∈ letters, isLetter c = true) ∧ letterAhead rest = false := by
  have spanned := List.span_eq_takeWhile_dropWhile (p := isLetter) cs
  constructor
  · intro h
    have parts : cs.takeWhile isLetter = letters ∧ cs.dropWhile isLetter = rest ∧ letters ≠ [] := by
      rw [spanLetters?, spanned] at h
      split at h <;> simp_all
    obtain ⟨rfl, rfl, some⟩ := parts
    refine ⟨List.takeWhile_append_dropWhile.symm, some, List.all_eq_true.mp List.all_takeWhile, ?_⟩
    have stop := List.head?_dropWhile_not isLetter cs
    cases h : List.dropWhile isLetter cs with
    | nil => rfl
    | cons c rest => simpa [h, letterAhead] using stop
  · rintro ⟨rfl, some, all, stop⟩
    have dropped : (letters ++ rest).dropWhile isLetter = rest := by
      rw [List.dropWhile_append_of_pos all]
      cases rest with
      | nil => rfl
      | cons c rest =>
        simp only [letterAhead] at stop
        simp [stop]
    have taken : (letters ++ rest).takeWhile isLetter = letters := by
      have whole := List.takeWhile_append_dropWhile (p := isLetter) (l := letters ++ rest)
      rw [dropped] at whole
      exact List.append_cancel_right whole
    obtain ⟨c, letters, rfl⟩ := List.exists_cons_of_ne_nil some
    rw [spanLetters?, spanned, taken, dropped]

theorem spanLetters?_of_not_letter {c : Char} (other : isLetter c = false) (cs : List Char) :
    spanLetters? (c :: cs) = none := by
  rw [spanLetters?, List.span_eq_takeWhile_dropWhile]
  simp [other]

theorem letterAhead_of_wordAhead {cs : List Char} (h : wordAhead cs = false) :
    letterAhead cs = false := by
  cases cs with
  | nil => rfl
  | cons c cs =>
    cases letter : isLetter c with
    | false => exact letter
    | true =>
      rw [wordAhead, isWord_of_isLetter letter] at h
      cases h

theorem blankAhead_of_sameText {v w rest : List Char} (same : SameText v w)
    (letter : letterAhead v = true) : blankAhead (w ++ rest) = false := by
  cases v with
  | nil => cases letter
  | cons c v =>
    cases w with
    | nil => simpa using same.length
    | cons d w =>
      have letter' := isLetter_of_sameLetter (sameText_cons.mp same).1 letter
      exact isBlank_of_isWord (isWord_of_isLetter letter')

end Text

namespace Role

open Text

theorem map_fold_word (r : Role) : r.word.map fold = r.word := by cases r <;> decide

/-- No text starts with both role words: they differ in their third letters. -/
theorem afterFolded?_knave_of_knight {cs k : List Char}
    (h : afterFolded? knight.word cs = some k) : afterFolded? knave.word cs = none := by
  cases h' : afterFolded? knave.word cs with
  | none => rfl
  | some n =>
    obtain ⟨v, split, same⟩ := afterFolded?_eq_some_iff.mp h
    obtain ⟨w, split', same'⟩ := afterFolded?_eq_some_iff.mp h'
    have folded := congrArg (List.map fold) (split.symm.trans split')
    rw [List.map_append, List.map_append, ← same, ← same', map_fold_word, map_fold_word] at folded
    simp [word] at folded

theorem atStart?_eq_some_iff {cs rest : List Char} {r : Role} :
    atStart? cs = some (r, rest) ↔ ∃ v, cs = v ++ rest ∧ SameText r.word v := by
  rw [← afterFolded?_eq_some_iff]
  cases hk : afterFolded? knight.word cs with
  | some k =>
    have hn := afterFolded?_knave_of_knight hk
    cases r <;> simp [atStart?, all, hk, hn]
  | none =>
    cases hn : afterFolded? knave.word cs <;> cases r <;> simp [atStart?, all, hk, hn]

theorem wordAtStart?_eq_some_iff {cs : List Char} {r : Role} :
    wordAtStart? cs = some r ↔
      ∃ v rest, cs = v ++ rest ∧ SameText r.word v ∧ wordAhead rest = false := by
  constructor
  · intro h
    rw [wordAtStart?] at h
    split at h
    · rename_i r' rest found
      split at h
      · cases h
      · rename_i ends
        cases h
        obtain ⟨v, split, same⟩ := atStart?_eq_some_iff.mp found
        exact ⟨v, rest, split, same, by simpa using ends⟩
    · cases h
  · rintro ⟨v, rest, split, same, ends⟩
    rw [wordAtStart?, atStart?_eq_some_iff.mpr ⟨v, split, same⟩]
    simp [ends]

end Role

def IsA (phrase : List Char) : Prop := ∃ b₁ is b₂ a b₃, phrase = b₁ ++ is ++ b₂ ++ a ++ b₃ ∧
  Text.Blanks b₁ ∧ Text.SameText ['i', 's'] is ∧ Text.Blanks b₂ ∧ Text.SameText ['a'] a ∧
  Text.Blanks b₃

open Text in
theorem afterIsA?_eq_some_iff {cs rest : List Char} :
    afterIsA? cs = some rest ↔
      ∃ phrase, IsA phrase ∧ cs = phrase ++ rest ∧ blankAhead rest = false := by
  simp only [afterIsA?, Option.bind_eq_bind, Option.bind_eq_some_iff, afterBlanks?_eq_some_iff,
    afterFolded?_eq_some_iff]
  constructor
  · rintro ⟨_, ⟨b₁, hb₁, rfl, -⟩, _, ⟨is, rfl, his⟩, _, ⟨b₂, hb₂, rfl, -⟩, _, ⟨a, rfl, ha⟩,
      b₃, hb₃, rfl, bare⟩
    exact ⟨_, ⟨b₁, is, b₂, a, b₃, rfl, hb₁, his, hb₂, ha, hb₃⟩, by simp, bare⟩
  · rintro ⟨_, ⟨b₁, is, b₂, a, b₃, rfl, hb₁, his, hb₂, ha, hb₃⟩, rfl, bare⟩
    refine ⟨_, ⟨b₁, hb₁, by simp only [List.append_assoc], ?_⟩,
      _, ⟨is, rfl, his⟩, _, ⟨b₂, hb₂, rfl, ?_⟩, _, ⟨a, rfl, ha⟩, b₃, hb₃, rfl, bare⟩
    · exact blankAhead_of_sameText his (by decide)
    · exact blankAhead_of_sameText ha (by decide)

end PuzzlePrep

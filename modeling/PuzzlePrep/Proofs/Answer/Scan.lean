import PuzzlePrep.Answer.Truth
import PuzzlePrep.Proofs.Answer.Statement

namespace PuzzlePrep

open Text

def IsRun (cs : List Char) : Prop := cs ≠ [] ∧ ∀ c ∈ cs, isWord c = true

theorem IsName.isRun {name : List Char} (h : IsName name) : IsRun name := ⟨h.1, h.isWord⟩

theorem isLetter_of_isWord {c : Char} (other : isWord c = false) : isLetter c = false := by
  cases letter : isLetter c with
  | false => rfl
  | true =>
    rw [isWord_of_isLetter letter] at other
    cases other

theorem run_unique {v w rest rest' : List Char} (split : v ++ rest = w ++ rest')
    (hv : ∀ c ∈ v, isWord c = true) (hw : ∀ c ∈ w, isWord c = true)
    (stop : wordAhead rest = false) (stop' : wordAhead rest' = false) : v = w ∧ rest = rest' := by
  rcases List.append_eq_append_iff.mp split with ⟨more, rfl, rfl⟩ | ⟨more, rfl, rfl⟩
  · cases more with
    | nil => simp
    | cons c more =>
      rw [List.cons_append, wordAhead, hw c (by simp)] at stop
      cases stop
  · cases more with
    | nil => simp
    | cons c more =>
      rw [List.cons_append, wordAhead, hv c (by simp)] at stop'
      cases stop'

theorem Role.isName_word (r : Role) : IsName r.word := by
  refine ⟨by cases r <;> decide, List.all_eq_true.mp ?_⟩
  cases r <;> decide

/-- No blank stands around what begins with a name and ends with a role word. -/
theorem trim_name_role {name : List Char} (isName : IsName name) (middle : List Char) (r : Role) :
    trim (name ++ (middle ++ r.word)) = name ++ (middle ++ r.word) := by
  apply trim_of_bare
  · obtain ⟨c, name, rfl⟩ := List.exists_cons_of_ne_nil isName.1
    exact isBlank_of_isWord (isName.isWord c List.mem_cons_self)
  · rw [List.reverse_append, List.reverse_append]
    cases r <;> rfl

theorem Role.wordAtStart?_run {w rest : List Char} {r : Role} (hw : ∀ c ∈ w, isWord c = true)
    (stop : wordAhead rest = false) :
    wordAtStart? (w ++ rest) = some r ↔ SameText r.word w := by
  rw [wordAtStart?_eq_some_iff]
  constructor
  · rintro ⟨v, rest', split, same, stop'⟩
    have words := (r.isName_word.of_sameText same).isWord
    rw [(run_unique split hw words stop stop').1]
    exact same
  · intro same
    exact ⟨w, rest, rfl, same, stop⟩

theorem Role.wordAtStart?_of_not_letter {c : Char} (other : isLetter c = false) (cs : List Char) :
    wordAtStart? (c :: cs) = none := by
  cases h : wordAtStart? (c :: cs) with
  | none => rfl
  | some r =>
    obtain ⟨v, rest, split, same, -⟩ := wordAtStart?_eq_some_iff.mp h
    obtain ⟨some, letters⟩ := r.isName_word.of_sameText same
    obtain ⟨d, v, rfl⟩ := List.exists_cons_of_ne_nil some
    simp only [List.cons_append, List.cons.injEq] at split
    rw [split.1, letters d List.mem_cons_self] at other
    cases other

section Name

theorem nameWord?_cons_of_not_letter {c : Char} (other : isLetter c = false) (behind : Bool)
    (cs : List Char) : nameWord? behind (c :: cs) = nameWord? (isWord c) cs := by
  rw [nameWord?]
  cases behind <;> simp [spanLetters?_of_not_letter other]

theorem nameWord?_pad {pad : List Char} (others : ∀ c ∈ pad, isLetter c = false) (behind : Bool)
    (cs : List Char) : nameWord? behind (pad ++ cs) = nameWord? (wordBehind behind pad) cs := by
  induction pad generalizing behind with
  | nil => rfl
  | cons c pad ih =>
    rw [List.cons_append, nameWord?_cons_of_not_letter (others c List.mem_cons_self), wordBehind,
      ih fun d member => others d (List.mem_cons_of_mem _ member)]

theorem nameWord?_name {name rest : List Char} (hn : IsName name) (stop : wordAhead rest = false) :
    nameWord? false (name ++ rest) = some (name, rest) := by
  have found : spanLetters? (name ++ rest) = some (name, rest) :=
    spanLetters?_eq_some_iff.mpr ⟨rfl, hn.1, hn.2, letterAhead_of_wordAhead stop⟩
  obtain ⟨c, name, rfl⟩ := List.exists_cons_of_ne_nil hn.1
  rw [List.cons_append] at found ⊢
  simp [nameWord?, found, stop]

theorem nameWord?_inside {w : List Char} (hw : ∀ c ∈ w, isWord c = true) (rest : List Char)
    (stop : wordAhead rest = false) : nameWord? true (w ++ rest) = nameWord? false rest := by
  induction w with
  | nil =>
    cases rest with
    | nil => rfl
    | cons c rest =>
      have other : isLetter c = false := isLetter_of_isWord stop
      rw [List.nil_append, nameWord?_cons_of_not_letter other, nameWord?_cons_of_not_letter other]
  | cons c w ih =>
    rw [List.cons_append, nameWord?]
    simp only [if_true, hw c List.mem_cons_self]
    exact ih fun d member => hw d (List.mem_cons_of_mem _ member)

/-- A word that is not all letters is no name, and neither is a part of it. -/
theorem nameWord?_of_other {w rest : List Char} (hw : IsRun w) (stop : wordAhead rest = false)
    (other : ¬ IsName w) : nameWord? false (w ++ rest) = nameWord? false rest := by
  have glued : ∀ letters rest', spanLetters? (w ++ rest) = some (letters, rest') →
      wordAhead rest' = true := by
    intro letters rest' found
    obtain ⟨split, some, all, -⟩ := spanLetters?_eq_some_iff.mp found
    have name : IsName letters := ⟨some, all⟩
    cases stop' : wordAhead rest' with
    | true => rfl
    | false =>
      obtain ⟨rfl, -⟩ := run_unique split hw.2 name.isWord stop stop'
      exact absurd name other
  obtain ⟨c, w, rfl⟩ := List.exists_cons_of_ne_nil hw.1
  have later := nameWord?_inside (fun d member => hw.2 d (List.mem_cons_of_mem _ member)) rest stop
  rw [List.cons_append] at glued ⊢
  rw [nameWord?, hw.2 c List.mem_cons_self]
  simp only [Bool.false_eq_true, if_false]
  cases found : spanLetters? (c :: (w ++ rest)) with
  | none => exact later
  | some front => simp only [glued front.1 front.2 found, if_true, later]

end Name

section RoleWord

theorem roleWord?_cons_of_not_word {c : Char} (other : isWord c = false) (behind : Bool)
    (cs : List Char) : roleWord? behind (c :: cs) = roleWord? false cs := by
  rw [roleWord?, other]
  cases behind <;> simp [Role.wordAtStart?_of_not_letter (isLetter_of_isWord other)]

theorem roleWord?_pad {pad : List Char} (some : pad ≠ []) (others : ∀ c ∈ pad, isWord c = false)
    (behind : Bool) (cs : List Char) : roleWord? behind (pad ++ cs) = roleWord? false cs := by
  induction pad generalizing behind with
  | nil => exact absurd rfl some
  | cons c pad ih =>
    rw [List.cons_append, roleWord?_cons_of_not_word (others c List.mem_cons_self)]
    cases pad with
    | nil => rfl
    | cons d pad =>
      exact ih (List.cons_ne_nil _ _) (fun e member => others e (List.mem_cons_of_mem _ member)) _

theorem roleWord?_of_stop {rest : List Char} (stop : wordAhead rest = false) :
    roleWord? true rest = roleWord? false rest := by
  cases rest with
  | nil => rfl
  | cons c rest => rw [roleWord?_cons_of_not_word stop, roleWord?_cons_of_not_word stop]

theorem roleWord?_inside {w : List Char} (hw : ∀ c ∈ w, isWord c = true) (rest : List Char) :
    roleWord? true (w ++ rest) = roleWord? true rest := by
  induction w with
  | nil => rfl
  | cons c w ih =>
    rw [List.cons_append, roleWord?]
    simp only [if_true, hw c List.mem_cons_self]
    exact ih fun d member => hw d (List.mem_cons_of_mem _ member)

theorem roleWord?_of_role {w rest : List Char} {r : Role} (same : SameText r.word w)
    (stop : wordAhead rest = false) : roleWord? false (w ++ rest) = some r := by
  have hw := r.isName_word.of_sameText same
  have found := (Role.wordAtStart?_run hw.isWord stop).mpr same
  obtain ⟨c, w, rfl⟩ := List.exists_cons_of_ne_nil hw.1
  rw [List.cons_append] at found ⊢
  simp [roleWord?, found]

theorem roleWord?_of_other {w rest : List Char} (hw : IsRun w) (stop : wordAhead rest = false)
    (other : ∀ r : Role, ¬ SameText r.word w) :
    roleWord? false (w ++ rest) = roleWord? true rest := by
  have missing : Role.wordAtStart? (w ++ rest) = none := by
    cases found : Role.wordAtStart? (w ++ rest) with
    | none => rfl
    | some r => exact absurd ((Role.wordAtStart?_run hw.2 stop).mp found) (other r)
  obtain ⟨c, w, rfl⟩ := List.exists_cons_of_ne_nil hw.1
  rw [List.cons_append] at missing ⊢
  rw [roleWord?]
  simp only [Bool.false_eq_true, if_false, missing, hw.2 c List.mem_cons_self]
  exact roleWord?_inside (fun d member => hw.2 d (List.mem_cons_of_mem _ member)) rest

end RoleWord

section Statement

variable {name : List Char}

theorem statedRole?_inside_cons (hn : IsName name) (c : Char) (cs : List Char) :
    statedRole? name true (c :: cs) = statedRole? name (isWord c) cs := by
  have missing : statementAtStart? name true (c :: cs) = none := by
    cases found : statementAtStart? name true (c :: cs) with
    | none => rfl
    | some r => cases ((statementAtStart?_eq_some_iff hn).mp found).1
  rw [statedRole?, missing]

theorem statedRole?_cons_of_not_word (hn : IsName name) {c : Char} (other : isWord c = false)
    (behind : Bool) (cs : List Char) :
    statedRole? name behind (c :: cs) = statedRole? name false cs := by
  have missing : statementAtStart? name behind (c :: cs) = none := by
    cases found : statementAtStart? name behind (c :: cs) with
    | none => rfl
    | some r =>
      obtain ⟨-, n, rest, -, split, same, -⟩ := (statementAtStart?_eq_some_iff hn).mp found
      have ahead := (hn.of_sameText same).wordAhead_append rest
      rw [← split, wordAhead, other] at ahead
      cases ahead
  rw [statedRole?, missing, other]

theorem statedRole?_pad (hn : IsName name) {pad : List Char}
    (others : ∀ c ∈ pad, isWord c = false) (cs : List Char) :
    statedRole? name false (pad ++ cs) = statedRole? name false cs := by
  induction pad with
  | nil => rfl
  | cons c pad ih =>
    rw [List.cons_append, statedRole?_cons_of_not_word hn (others c List.mem_cons_self)]
    exact ih fun d member => others d (List.mem_cons_of_mem _ member)

theorem statedRole?_inside (hn : IsName name) {w : List Char} (hw : ∀ c ∈ w, isWord c = true)
    (rest : List Char) (stop : wordAhead rest = false) :
    statedRole? name true (w ++ rest) = statedRole? name false rest := by
  induction w with
  | nil =>
    cases rest with
    | nil => rfl
    | cons c rest =>
      rw [List.nil_append, statedRole?_cons_of_not_word hn stop,
        statedRole?_cons_of_not_word hn stop]
  | cons c w ih =>
    rw [List.cons_append, statedRole?_inside_cons hn, hw c List.mem_cons_self]
    exact ih fun d member => hw d (List.mem_cons_of_mem _ member)

/-- A word begins a statement if it is the name and `is a` and a role follow. -/
theorem statedRole?_of_statement (hn : IsName name) {w rest rest' : List Char} {r : Role}
    (same : SameText name w) (stop : wordAhead rest = false) (isA : afterIsA? rest = some rest')
    (role : Role.wordAtStart? rest' = some r) : statedRole? name false (w ++ rest) = some r := by
  have found : statementAtStart? name false (w ++ rest) = some r :=
    (statementAtStart?_eq_some_iff hn).mpr ⟨rfl, w, rest, rest', rfl, same, stop, isA, role⟩
  obtain ⟨c, w, rfl⟩ := List.exists_cons_of_ne_nil (hn.of_sameText same).1
  rw [List.cons_append] at found ⊢
  rw [statedRole?, found]

theorem statedRole?_of_other (hn : IsName name) {w rest : List Char} (hw : IsRun w)
    (stop : wordAhead rest = false)
    (other : SameText name w → (afterIsA? rest).bind Role.wordAtStart? = none) :
    statedRole? name false (w ++ rest) = statedRole? name false rest := by
  have missing : statementAtStart? name false (w ++ rest) = none := by
    cases found : statementAtStart? name false (w ++ rest) with
    | none => rfl
    | some r =>
      obtain ⟨-, n, rest', more, split, same, stop', isA, role⟩ :=
        (statementAtStart?_eq_some_iff hn).mp found
      obtain ⟨rfl, rfl⟩ := run_unique split hw.2 (hn.of_sameText same).isWord stop stop'
      have nothing := other same
      rw [isA, Option.bind_some, role] at nothing
      cases nothing
  obtain ⟨c, w, rfl⟩ := List.exists_cons_of_ne_nil hw.1
  rw [List.cons_append] at missing ⊢
  rw [statedRole?, missing, hw.2 c List.mem_cons_self]
  exact statedRole?_inside hn (fun d member => hw.2 d (List.mem_cons_of_mem _ member)) rest stop

end Statement

end PuzzlePrep

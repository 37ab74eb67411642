import PuzzlePrep.Proofs.Answer.Scan
import PuzzlePrep.Proofs.Answer.Truth
import PuzzlePrep.Proofs.Text.Lines
import PuzzlePrep.Proofs.Text.Occurrence

namespace PuzzlePrep

open Text

/-- A line whose front has the right form is read if nothing stands behind the role. -/
theorem readAnswerLine?_front (i : Nat) {b name phrase r : List Char} {role : Role}
    (blanks : Blanks b) (isName : IsName name) (isA : IsA phrase) (same : SameText role.word r)
    (rest : List Char) : readAnswerLine? i (numbering i ++ b ++ name ++ phrase ++ r ++ rest) =
      if rest = [] then some (name, role) else none := by
  have number : after? (numbering i) (numbering i ++ b ++ name ++ phrase ++ r ++ rest) =
      some (b ++ name ++ phrase ++ r ++ rest) := after?_eq_some_iff.mpr (by simp)
  have bare : blankAhead (name ++ phrase ++ r ++ rest) = false := by
    obtain ⟨c, name, rfl⟩ := List.exists_cons_of_ne_nil isName.1
    exact isBlank_of_isWord (isName.isWord c List.mem_cons_self)
  have gap : afterBlanks? (b ++ name ++ phrase ++ r ++ rest) = some (name ++ phrase ++ r ++ rest) :=
    afterBlanks?_eq_some_iff.mpr ⟨b, blanks, by simp, bare⟩
  have letters : spanLetters? (name ++ phrase ++ r ++ rest) = some (name, phrase ++ (r ++ rest)) :=
    spanLetters?_eq_some_iff.mpr ⟨by simp, isName.1, isName.2,
      letterAhead_of_wordAhead (isA.wordAhead_append _)⟩
  have bareRole : blankAhead (r ++ rest) = false :=
    blankAhead_of_sameText same (by cases role <;> decide)
  have words : afterIsA? (phrase ++ (r ++ rest)) = some (r ++ rest) :=
    afterIsA?_eq_some_iff.mpr ⟨phrase, isA, rfl, bareRole⟩
  have last : Role.atStart? (r ++ rest) = some (role, rest) :=
    Role.atStart?_eq_some_iff.mpr ⟨r, rfl, same⟩
  simp only [readAnswerLine?, Option.bind_eq_bind, number, gap, letters, words, last,
    Option.bind_some]
  cases rest with
  | nil => rfl
  | cons c rest => rfl

theorem readAnswerLine?_eq_some_iff {i : Nat} {line name : List Char} {role : Role} :
    readAnswerLine? i line = some (name, role) ↔ ∃ b phrase r,
      line = numbering i ++ b ++ name ++ phrase ++ r ∧ Blanks b ∧ IsName name ∧ IsA phrase ∧
        SameText role.word r := by
  constructor
  · intro h
    simp only [readAnswerLine?, Option.bind_eq_bind, Option.bind_eq_some_iff, Prod.exists,
      after?_eq_some_iff, afterBlanks?_eq_some_iff, spanLetters?_eq_some_iff,
      afterIsA?_eq_some_iff] at h
    obtain ⟨_, rfl, _, ⟨b, blanks, rfl, -⟩, letters, _, ⟨rfl, some, all, -⟩, rest,
      ⟨phrase, isA, rfl, -⟩, last⟩ := h
    split at last
    · rename_i r found
      cases last
      obtain ⟨v, rfl, same⟩ := Role.atStart?_eq_some_iff.mp found
      rw [List.append_nil]
      exact ⟨b, phrase, v, by simp, blanks, ⟨some, all⟩, isA, same⟩
    · cases last
  · rintro ⟨b, phrase, r, rfl, blanks, isName, isA, same⟩
    have read := readAnswerLine?_front i blanks isName isA same []
    rwa [List.append_nil] at read

theorem isRun_toDigits (i : Nat) : IsRun (Nat.toDigits 10 i) := by
  refine ⟨?_, ?_⟩
  · exact Nat.toDigits_ne_nil
  · intro c member
    exact (digit_word_not_letter (Nat.isDigit_of_mem_toDigits (by decide) (by decide) member)).1

theorem not_isLetter_of_mem_toDigits {i : Nat} {c : Char} (member : c ∈ Nat.toDigits 10 i) :
    isLetter c = false :=
  (digit_word_not_letter (Nat.isDigit_of_mem_toDigits (by decide) (by decide) member)).2

theorem numbering_append (i : Nat) (rest : List Char) :
    numbering i ++ rest = '(' :: (Nat.toDigits 10 i ++ ')' :: rest) := by
  simp [numbering]

theorem isName_is : IsName ['i', 's'] := ⟨by decide, List.all_eq_true.mp (by decide)⟩

theorem isName_a : IsName ['a'] := ⟨by decide, List.all_eq_true.mp (by decide)⟩

theorem not_sameText_of_length {v w : List Char} (h : v.length ≠ w.length) : ¬ SameText v w :=
  fun same => h same.length

/-- Behind `is a` the role is the first role word. -/
theorem roleWord?_isA {phrase r : List Char} {role : Role} (isA : IsA phrase)
    (same : SameText role.word r) : roleWord? true (phrase ++ r) = some role := by
  obtain ⟨b₁, is, b₂, a, b₃, rfl, hb₁, his, hb₂, ha, hb₃⟩ := isA
  have isRun : IsRun is := (isName_is.of_sameText his).isRun
  have aRun : IsRun a := (isName_a.of_sameText ha).isRun
  have noIs : ∀ r : Role, ¬ SameText r.word is := fun r =>
    not_sameText_of_length (by rw [← his.length]; cases r <;> decide)
  have noA : ∀ r : Role, ¬ SameText r.word a := fun r =>
    not_sameText_of_length (by rw [← ha.length]; cases r <;> decide)
  have stop₂ (rest : List Char) : wordAhead (b₂ ++ rest) = false := hb₂.wordAhead_append rest
  have stop₃ (rest : List Char) : wordAhead (b₃ ++ rest) = false := hb₃.wordAhead_append rest
  simp only [List.append_assoc]
  rw [roleWord?_pad hb₁.1 hb₁.not_isWord, roleWord?_of_other isRun (stop₂ _) noIs,
    roleWord?_pad hb₂.1 hb₂.not_isWord, roleWord?_of_other aRun (stop₃ _) noA,
    roleWord?_pad hb₃.1 hb₃.not_isWord, ← List.append_nil r]
  exact roleWord?_of_role same rfl

theorem identityOf?_of_readAnswerLine? {i : Nat} {line name : List Char} {role : Role}
    (h : readAnswerLine? i line = some (name, role)) :
    identityOf? line = some (String.ofList name, role) := by
  obtain ⟨b, phrase, r, rfl, blanks, isName, isA, same⟩ := readAnswerLine?_eq_some_iff.mp h
  have pad : ∀ c ∈ numbering i ++ b, isLetter c = false := by
    intro c member
    have kinds : c = '(' ∨ c = ')' ∨ c ∈ Nat.toDigits 10 i ∨ c ∈ b := by
      simp only [numbering, List.cons_append, List.mem_cons, List.mem_append,
        List.not_mem_nil, or_false] at member
      tauto
    rcases kinds with rfl | rfl | digit | blank
    · decide
    · decide
    · exact not_isLetter_of_mem_toDigits digit
    · exact isLetter_of_isWord (blanks.not_isWord c blank)
  have behind : wordBehind false (numbering i ++ b) = false := by
    rw [wordBehind_append, wordBehind_of_uniform blanks.1 blanks.not_isWord]
  have found : nameWord? false (numbering i ++ b ++ name ++ phrase ++ r) =
      some (name, phrase ++ r) := by
    rw [List.append_assoc (numbering i ++ b ++ name), List.append_assoc (numbering i ++ b),
      nameWord?_pad pad, behind]
    exact nameWord?_name isName (isA.wordAhead_append r)
  simp only [identityOf?, Option.bind_eq_bind, found, roleWord?_isA isA same, Option.bind_some]
  rfl

section NoPhrase

theorem afterIsA?_of_allBlank {b : List Char} (blank : allBlank b = true) : afterIsA? b = none := by
  cases found : afterIsA? b with
  | none => rfl
  | some rest =>
    obtain ⟨_, ⟨b₁, is, b₂, a, b₃, rfl, -, his, -⟩, rfl, -⟩ := afterIsA?_eq_some_iff.mp found
    obtain ⟨c, is, rfl⟩ := List.exists_cons_of_ne_nil (isName_is.of_sameText his).1
    have word := (isName_is.of_sameText his).isWord c List.mem_cons_self
    have inside := allBlank_iff.mp blank c (by simp)
    rw [isWord_of_isBlank inside] at word
    cases word

theorem afterIsA?_of_head {b cs : List Char} {c : Char} (blanks : Blanks b)
    (bare : isBlank c = false) (other : sameLetter 'i' c = false) :
    afterIsA? (b ++ c :: cs) = none := by
  have gap : afterBlanks? (b ++ c :: cs) = some (c :: cs) :=
    afterBlanks?_eq_some_iff.mpr ⟨b, blanks, rfl, bare⟩
  simp [afterIsA?, gap, afterFolded?, other]

theorem afterIsA?_of_word {b v w rest : List Char} {c : Char} (blanks : Blanks b)
    (same : SameText (c :: v) w) (letter : isLetter c = true) (other : sameLetter 'i' c = false) :
    afterIsA? (b ++ (w ++ rest)) = none := by
  cases w with
  | nil => simpa using same.length
  | cons d w =>
    have first := (sameText_cons.mp same).1
    have letter' := isLetter_of_sameLetter first letter
    refine afterIsA?_of_head blanks (isBlank_of_isWord (isWord_of_isLetter letter')) ?_
    rw [sameLetter, beq_eq_false_iff_ne] at other ⊢
    rw [sameLetter, beq_iff_eq] at first
    rwa [← first]

theorem afterIsA?_of_role {b r rest : List Char} {role : Role} (blanks : Blanks b)
    (same : SameText role.word r) : afterIsA? (b ++ (r ++ rest)) = none := by
  cases role <;> exact afterIsA?_of_word blanks same (by decide) (by decide)

end NoPhrase

/-- What may stand behind a line: no word that goes on, and no `is a`. -/
def EndsStatement (tail : List Char) : Prop := wordAhead tail = false ∧ afterIsA? tail = none

theorem endsStatement_of_allBlank {b : List Char} (blank : allBlank b = true) : EndsStatement b := by
  refine ⟨?_, afterIsA?_of_allBlank blank⟩
  cases b with
  | nil => rfl
  | cons c b => exact isWord_of_isBlank (allBlank_iff.mp blank c List.mem_cons_self)

theorem endsStatement_of_paren {b cs : List Char} (blanks : Blanks b) :
    EndsStatement (b ++ '(' :: cs) :=
  ⟨blanks.wordAhead_append _, afterIsA?_of_head blanks (by decide) (by decide)⟩

section Scan

variable {name : List Char}

/-- In the phrase `is a role` no word begins a statement, even if one is the name. -/
theorem statedRole?_phrase (hn : IsName name) {phrase r tail : List Char} {role : Role}
    (isA : IsA phrase) (same : SameText role.word r) (ends : EndsStatement tail) :
    statedRole? name false (phrase ++ (r ++ tail)) = statedRole? name false tail := by
  obtain ⟨b₁, is, b₂, a, b₃, rfl, hb₁, his, hb₂, ha, hb₃⟩ := isA
  have isRun : IsRun is := (isName_is.of_sameText his).isRun
  have aRun : IsRun a := (isName_a.of_sameText ha).isRun
  have rRun : IsRun r := (role.isName_word.of_sameText same).isRun
  -- Behind `is` only `a` follows and behind `a` only the role, so neither begins a statement.
  have noIsA : afterIsA? (b₂ ++ (a ++ (b₃ ++ (r ++ tail)))) = none :=
    afterIsA?_of_word hb₂ ha (by decide) (by decide)
  have noRole : afterIsA? (b₃ ++ (r ++ tail)) = none := afterIsA?_of_role hb₃ same
  simp only [List.append_assoc]
  rw [statedRole?_pad hn hb₁.not_isWord,
    statedRole?_of_other hn isRun (hb₂.wordAhead_append _) (by simp [noIsA]),
    statedRole?_pad hn hb₂.not_isWord,
    statedRole?_of_other hn aRun (hb₃.wordAhead_append _) (by simp [noRole]),
    statedRole?_pad hn hb₃.not_isWord,
    statedRole?_of_other hn rRun ends.1 (by simp [ends.2])]

theorem statedRole?_numbering (hn : IsName name) (i : Nat) (rest : List Char) :
    statedRole? name false (numbering i ++ rest) = statedRole? name false rest := by
  have other : ¬ SameText name (Nat.toDigits 10 i) := by
    intro same
    obtain ⟨c, member⟩ := List.exists_mem_of_ne_nil _ (hn.of_sameText same).1
    have letter := (hn.of_sameText same).2 c member
    rw [not_isLetter_of_mem_toDigits member] at letter
    cases letter
  rw [numbering_append, statedRole?_cons_of_not_word hn (by decide),
    statedRole?_of_other hn (isRun_toDigits i) (by rfl) (fun same => absurd same other),
    statedRole?_cons_of_not_word hn (by decide)]

/-- A statement says what it says of its own name, and nothing of others. -/
theorem statedRole?_own (hn : IsName name) {n phrase r tail : List Char} {role : Role}
    (isName : IsName n) (isA : IsA phrase) (same : SameText role.word r)
    (ends : EndsStatement tail) : statedRole? name false (n ++ (phrase ++ (r ++ tail))) =
      if SameText name n then some role else statedRole? name false tail := by
  split
  · rename_i own
    have phraseRead : afterIsA? (phrase ++ (r ++ tail)) = some (r ++ tail) :=
      afterIsA?_eq_some_iff.mpr
        ⟨phrase, isA, rfl, blankAhead_of_sameText same (by cases role <;> decide)⟩
    have roleRead : Role.wordAtStart? (r ++ tail) = some role :=
      (Role.wordAtStart?_run (role.isName_word.of_sameText same).isWord ends.1).mpr same
    exact statedRole?_of_statement hn own (isA.wordAhead_append _) phraseRead roleRead
  · rename_i other
    rw [statedRole?_of_other hn isName.isRun (isA.wordAhead_append _)
      (fun own => absurd own other)]
    exact statedRole?_phrase hn isA same ends

/-- A line of the right form says what it says of its own name, and nothing of others. -/
theorem statedRole?_line (hn : IsName name) {i : Nat} {line n tail : List Char} {role : Role}
    (read : readAnswerLine? i line = some (n, role)) (ends : EndsStatement tail) :
    statedRole? name false (line ++ tail) =
      if SameText name n then some role else statedRole? name false tail := by
  obtain ⟨b, phrase, r, rfl, blanks, isName, isA, same⟩ := readAnswerLine?_eq_some_iff.mp read
  simp only [List.append_assoc]
  rw [statedRole?_numbering hn, statedRole?_pad hn blanks.not_isWord]
  exact statedRole?_own hn isName isA same ends

end Scan

def entriesFrom (i : Nat) (lines : List (List Char)) : List (List Char × Role) :=
  (lines.zipIdx i).filterMap fun (line, k) => readAnswerLine? k (trim line)

def answerEntries (answer : List Char) : List (List Char × Role) :=
  entriesFrom 1 (lines (trim answer))

theorem isAnswer_iff {count : Nat} {answer : List Char} : isAnswer count answer = true ↔
    (lines (trim answer)).length = count ∧ answerLinesFrom 1 (lines (trim answer)) = true := by
  simp [isAnswer]

theorem answerLinesFrom_cons {i : Nat} {line : List Char} {rest : List (List Char)} :
    answerLinesFrom i (line :: rest) = true ↔
      (∃ n role, readAnswerLine? i (trim line) = some (n, role)) ∧
        answerLinesFrom (i + 1) rest = true := by
  simp [answerLinesFrom, Option.isSome_iff_exists]

theorem entriesFrom_cons {i : Nat} {line n : List Char} {role : Role}
    (read : readAnswerLine? i (trim line) = some (n, role)) (rest : List (List Char)) :
    entriesFrom i (line :: rest) = (n, role) :: entriesFrom (i + 1) rest := by
  simp [entriesFrom, List.zipIdx_cons, read]

theorem filterMap_identityOf?_lines {i : Nat} {lines : List (List Char)}
    (valid : answerLinesFrom i lines = true) : lines.filterMap (identityOf? <| trim ·) =
      (entriesFrom i lines).map fun (n, role) => (String.ofList n, role) := by
  induction lines generalizing i with
  | nil => rfl
  | cons line rest ih =>
    obtain ⟨⟨n, role, read⟩, valid⟩ := answerLinesFrom_cons.mp valid
    simp only [entriesFrom_cons read, List.filterMap_cons, identityOf?_of_readAnswerLine? read,
      ih valid, List.map_cons]

theorem exists_join_lines {i : Nat} {line : List Char} {rest : List (List Char)}
    (valid : answerLinesFrom i (line :: rest) = true) :
    ∃ pad cs, allBlank pad = true ∧ join ['\n'] (line :: rest) = pad ++ '(' :: cs := by
  obtain ⟨⟨n, role, read⟩, -⟩ := answerLinesFrom_cons.mp valid
  obtain ⟨pad, back, blank, -, split⟩ := exists_trim line
  obtain ⟨b, phrase, r, form, -⟩ := readAnswerLine?_eq_some_iff.mp read
  have opened : ∃ cs, line = pad ++ '(' :: cs := by
    rw [form] at split
    simp only [List.append_assoc, numbering_append] at split
    exact ⟨_, split⟩
  obtain ⟨cs, opened⟩ := opened
  cases rest with
  | nil => exact ⟨pad, cs, blank, opened⟩
  | cons next rest =>
    refine ⟨pad, cs ++ ['\n'] ++ join ['\n'] (next :: rest), blank, ?_⟩
    rw [join_cons_of_ne_nil _ _ (List.cons_ne_nil _ _), opened]
    simp

/-- An answer is its first line between blanks and a tail that ends the line and says what the other
lines say. -/
theorem exists_tail {i : Nat} {line : List Char} {rest : List (List Char)}
    (valid : answerLinesFrom i (line :: rest) = true) :
    ∃ pad tail, allBlank pad = true ∧ join ['\n'] (line :: rest) = pad ++ (trim line ++ tail) ∧
      EndsStatement tail ∧ ∀ name, IsName name →
        statedRole? name false tail = statedRole? name false (join ['\n'] rest) := by
  obtain ⟨-, valid⟩ := answerLinesFrom_cons.mp valid
  obtain ⟨pad, back, blank, blank', split⟩ := exists_trim line
  cases rest with
  | nil =>
    refine ⟨pad, back, blank, ?_, endsStatement_of_allBlank blank', ?_⟩
    · rw [← List.append_assoc]
      exact split
    · intro name hn
      have scanned := statedRole?_pad hn (isWord_of_allBlank blank') []
      rwa [List.append_nil] at scanned
  | cons next rest =>
    -- The parenthesis of the next number ends this line, even where its last word is `is`.
    obtain ⟨gap, cs, gapBlank, begins⟩ := exists_join_lines valid
    refine ⟨pad, back ++ '\n' :: join ['\n'] (next :: rest), blank, ?_, ?_, ?_⟩
    · rw [join_cons_of_ne_nil _ _ (List.cons_ne_nil _ _)]
      conv => lhs; rw [split]
      simp only [List.append_assoc, List.cons_append, List.nil_append]
    · have blanks : Blanks (back ++ '\n' :: gap) := by
        refine ⟨by simp, allBlank_iff.mp ?_⟩
        simp only [allBlank, List.all_append, List.all_cons, Bool.and_eq_true]
        exact ⟨blank', by decide, gapBlank⟩
      have paren : EndsStatement (back ++ '\n' :: gap ++ '(' :: cs) := endsStatement_of_paren blanks
      rwa [List.append_assoc, List.cons_append, ← begins] at paren
    · intro name hn
      rw [statedRole?_pad hn (isWord_of_allBlank blank'),
        statedRole?_cons_of_not_word hn (by decide)]

/-- Of a name an answer says what the first line of that name says. -/
theorem statedRole?_join_lines {name : List Char} (hn : IsName name) {i : Nat}
    {lines : List (List Char)} (valid : answerLinesFrom i lines = true) :
    statedRole? name false (join ['\n'] lines) =
      ((entriesFrom i lines).find? (SameText name ·.1)).map Prod.snd := by
  induction lines generalizing i with
  | nil => rfl
  | cons line rest ih =>
    obtain ⟨⟨n, role, read⟩, valid'⟩ := answerLinesFrom_cons.mp valid
    obtain ⟨pad, tail, blank, split, ends, later⟩ := exists_tail valid
    rw [split, statedRole?_pad hn (isWord_of_allBlank blank), statedRole?_line hn read ends,
      later name hn, ih valid', entriesFrom_cons read, List.find?_cons]
    by_cases own : SameText name n <;> simp [own]

end PuzzlePrep

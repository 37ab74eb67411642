import PuzzlePrep.Answer.Role
import PuzzlePrep.Proofs.Text.Blank

namespace PuzzlePrep.Text

def SameText (v w : List Char) : Prop := v.map fold = w.map fold

instance (v w : List Char) : Decidable (SameText v w) := by
  unfold SameText
  infer_instance

theorem SameText.refl (v : List Char) : SameText v v := rfl

theorem SameText.length {v w : List Char} (h : SameText v w) : v.length = w.length := by
  simpa using congrArg List.length h

theorem sameText_cons {c d : Char} {v w : List Char} :
    SameText (c :: v) (d :: w) ↔ sameLetter c d = true ∧ SameText v w := by
  simp [SameText, sameLetter]

theorem sameText_nil_left {v : List Char} : SameText [] v ↔ v = [] := by
  cases v <;> simp [SameText]

theorem toNat_ofNat_cases (m : Nat) : (Char.ofNat m).toNat = m ∨ (Char.ofNat m).toNat = 0 := by
  by_cases valid : m.isValidChar
  · rw [Char.ofNat, dif_pos valid]
    exact Or.inl rfl
  · rw [Char.ofNat, dif_neg valid]
    exact Or.inr rfl

theorem fold_beyond_ascii {c : Char} (beyond : 128 ≤ c.toNat) :
    fold c = c ∨ ∃ run ∈ foldRuns.toList, run.1 ≤ c.toNat ∧ c.toNat ≤ run.2.1 ∧
      fold c = Char.ofNat ((c.toNat : Int) + run.2.2.2).toNat := by
  have notAscii : ¬ c.toNat < 128 := by omega
  simp only [fold, notAscii, if_false]
  split
  · rename_i first last step shift found
    have inside := Array.find?_some found
    simp only [Bool.and_eq_true, decide_eq_true_eq] at inside
    exact Or.inr ⟨_, Array.mem_toList_iff.mpr (Array.mem_of_find?_eq_some found),
      inside.1.1, inside.1.2, rfl⟩
  · exact Or.inl rfl

set_option maxRecDepth 4000 in
/-- No run of the table leads into a to z but the long s and the Kelvin sign. -/
theorem foldRuns_letters : ∀ run ∈ foldRuns.toList,
    (run.1 = 383 ∧ run.2.1 = 383) ∨ (run.1 = 8490 ∧ run.2.1 = 8490) ∨
    122 < (run.1 : Int) + run.2.2.2 ∨ (run.2.1 : Int) + run.2.2.2 < 97 := by
  decide

/-- A character beyond ASCII folds into a to z only if it is one of these two. -/
theorem longS_or_kelvin_of_fold {c : Char} (beyond : 128 ≤ c.toNat)
    (low : 97 ≤ (fold c).toNat) (high : (fold c).toNat ≤ 122) : c = 'ſ' ∨ c = '\u212A' := by
  have code : c.toNat = 383 ∨ c.toNat = 8490 := by
    rcases fold_beyond_ascii beyond with same | ⟨run, member, first, last, folded⟩
    · rw [same] at high
      omega
    · rw [folded] at low high
      have shifted := toNat_ofNat_cases ((c.toNat : Int) + run.2.2.2).toNat
      have runs := foldRuns_letters run member
      omega
  rcases code with code | code
  · exact Or.inl (by rw [← Char.ofNat_toNat c, code])
  · exact Or.inr (by rw [← Char.ofNat_toNat c, code])

theorem ascii_forall {P : Char → Prop} (all : ∀ n < 128, P (Char.ofNat n)) {c : Char}
    (ascii : c.toNat < 128) : P c := by
  simpa using all c.toNat ascii

theorem isAlpha_beyond_ascii {c : Char} (beyond : 128 ≤ c.toNat) : c.isAlpha = false := by
  have code : 128 ≤ c.val.toNat := beyond
  have upper : ¬ c.val ≤ 90 := by
    rw [UInt32.le_iff_toNat_le]
    exact fun small => absurd (Nat.le_trans code small) (by decide)
  have lower : ¬ c.val ≤ 122 := by
    rw [UInt32.le_iff_toNat_le]
    exact fun small => absurd (Nat.le_trans code small) (by decide)
  change (decide (65 ≤ c.val ∧ c.val ≤ 90) || decide (97 ≤ c.val) && decide (c.val ≤ 122)) = false
  simp [upper, lower]

set_option maxRecDepth 4000 in
theorem isLetter_iff_fold {c : Char} :
    isLetter c = true ↔ 97 ≤ (fold c).toNat ∧ (fold c).toNat ≤ 122 := by
  by_cases ascii : c.toNat < 128
  · exact ascii_forall (P := fun c =>
      isLetter c = true ↔ 97 ≤ (fold c).toNat ∧ (fold c).toNat ≤ 122) (by decide) ascii
  · constructor
    · intro letter
      have alpha := isAlpha_beyond_ascii (c := c) (by omega)
      simp only [isLetter, alpha, Bool.false_or, Bool.or_eq_true, beq_iff_eq] at letter
      rcases letter with rfl | rfl <;> decide
    · intro ⟨low, high⟩
      rcases longS_or_kelvin_of_fold (by omega) low high with rfl | rfl <;> rfl

theorem isLetter_of_sameLetter {c d : Char} (same : sameLetter c d = true)
    (letter : isLetter c = true) : isLetter d = true := by
  have folded : fold c = fold d := by simpa [sameLetter] using same
  rw [isLetter_iff_fold, ← folded]
  exact isLetter_iff_fold.mp letter

theorem isWord_beyond_ascii {c : Char} (beyond : 128 ≤ c.toNat) :
    isWord c = wordRanges.toList.any fun run => run.1 ≤ c.toNat && c.toNat ≤ run.2 := by
  have notAscii : ¬ c.toNat < 128 := by omega
  simp only [isWord, notAscii, if_false, Array.any_toList]

set_option maxRecDepth 4000 in
theorem isWord_of_isLetter {c : Char} (letter : isLetter c = true) : isWord c = true := by
  by_cases ascii : c.toNat < 128
  · exact ascii_forall (P := fun c => isLetter c = true → isWord c = true) (by decide)
      ascii letter
  · obtain ⟨low, high⟩ := isLetter_iff_fold.mp letter
    rw [isWord_beyond_ascii (by omega)]
    rcases longS_or_kelvin_of_fold (by omega) low high with rfl | rfl <;> decide

set_option maxRecDepth 4000 in
theorem digit_word_not_letter {c : Char} (digit : c.isDigit = true) :
    isWord c = true ∧ isLetter c = false := by
  have ascii : c.toNat < 128 := by
    simp only [Char.isDigit, Bool.and_eq_true, decide_eq_true_eq, Char.reduceVal] at digit
    have high := UInt32.le_iff_toNat_le.mp digit.2
    exact Nat.lt_of_le_of_lt high (by decide)
  exact ascii_forall (P := fun c => c.isDigit = true → isWord c = true ∧ isLetter c = false)
    (by decide) ascii digit

theorem letters_of_sameText {v w : List Char} (same : SameText v w)
    (letters : ∀ c ∈ v, isLetter c = true) : ∀ c ∈ w, isLetter c = true := by
  intro c member
  have folded : fold c ∈ v.map fold := by
    rw [same]
    exact List.mem_map_of_mem member
  obtain ⟨d, inside, equal⟩ := List.mem_map.mp folded
  exact isLetter_of_sameLetter (by simp [sameLetter, equal]) (letters d inside)

def wideBlanks : List Nat :=
  [0x85, 0xA0, 0x1680, 0x2000, 0x2001, 0x2002, 0x2003, 0x2004, 0x2005, 0x2006, 0x2007, 0x2008,
    0x2009, 0x200A, 0x2028, 0x2029, 0x202F, 0x205F, 0x3000]

theorem wideBlanks_apart : ∀ n ∈ wideBlanks, ∀ run ∈ wordRanges.toList,
    (run.1 ≤ n && n ≤ run.2) = false := by
  have apart : (wideBlanks.all fun n => wordRanges.toList.all fun run =>
      !(run.1 ≤ n && n ≤ run.2)) = true := by decide +kernel
  simpa only [List.all_eq_true, Bool.not_eq_true'] using apart

set_option maxRecDepth 4000 in
theorem isWord_of_isBlank {c : Char} (blank : isBlank c = true) : isWord c = false := by
  by_cases ascii : c.toNat < 128
  · exact ascii_forall (P := fun c => isBlank c = true → isWord c = false) (by decide)
      ascii blank
  · have code : c.toNat ∈ wideBlanks := by
      simp [isBlank] at blank
      simp [wideBlanks]
      omega
    rw [isWord_beyond_ascii (by omega), List.any_eq_false]
    intro run member
    simpa using wideBlanks_apart _ code run member

theorem isBlank_of_isWord {c : Char} (word : isWord c = true) : isBlank c = false := by
  cases blank : isBlank c with
  | false => rfl
  | true =>
    rw [isWord_of_isBlank blank] at word
    cases word

end PuzzlePrep.Text

import Mathlib.Data.List.SplitBy
import PuzzlePrep.Proofs.Answer.Scan

namespace PuzzlePrep

open Text

/-- The text cut wherever a word begins or ends. -/
def segments (cs : List Char) : List (List Char) := cs.splitBy fun c d => isWord c == isWord d

def words (cs : List Char) : List (List Char) := (segments cs).filter (·.all isWord)

def IsGap (cs : List Char) : Prop := cs ≠ [] ∧ ∀ c ∈ cs, isWord c = false

theorem wordBehind_eq_getLast? (behind : Bool) (cs : List Char) :
    wordBehind behind cs = (cs.getLast?.map isWord).getD behind := by
  induction cs generalizing behind with
  | nil => rfl
  | cons c cs ih =>
    rw [wordBehind, ih, List.getLast?_cons]
    cases cs.getLast? <;> rfl

theorem wordAhead_eq_head? (cs : List Char) : wordAhead cs = (cs.head?.map isWord).getD false := by
  cases cs <;> rfl

section Segments

variable {front back w b gap rest cs : List Char} {before after segs segs' : List (List Char)}

theorem flatten_segments (cs : List Char) : (segments cs).flatten = cs := List.flatten_splitBy _ _

theorem ne_nil_of_mem_segments {s : List Char} (member : s ∈ segments cs) : s ≠ [] :=
  List.ne_nil_of_mem_splitBy member

/-- A word begins behind the front, so no segment reaches over the border. -/
theorem segments_append_of_word (stop : wordBehind false front = false)
    (ahead : wordAhead back = true) : segments (front ++ back) = segments front ++ segments back := by
  apply List.splitBy_append
  intro c last d first
  rw [wordBehind_eq_getLast?, last] at stop
  rw [wordAhead_eq_head?, first] at ahead
  simp only [Option.map_some, Option.getD_some] at stop ahead
  simp [stop, ahead]

theorem segments_append_of_gap (inside : wordBehind true front = true)
    (stop : wordAhead back = false) : segments (front ++ back) = segments front ++ segments back := by
  apply List.splitBy_append
  intro c last d first
  rw [wordBehind_eq_getLast?, last] at inside
  rw [wordAhead_eq_head?, first] at stop
  simp only [Option.map_some, Option.getD_some] at inside stop
  simp [inside, stop]

theorem segments_of_uniform {b : Bool} (some : cs ≠ []) (same : ∀ c ∈ cs, isWord c = b) :
    segments cs = [cs] := by
  apply List.splitBy_of_isChain some
  apply List.Pairwise.isChain
  apply List.pairwise_of_forall_mem_list
  intro c hc d hd
  simp [same c hc, same d hd]

theorem segments_run (hw : IsRun w) (stop : wordAhead rest = false) :
    segments (w ++ rest) = w :: segments rest := by
  rw [segments_append_of_gap (wordBehind_of_uniform hw.1 hw.2 true) stop,
    segments_of_uniform hw.1 hw.2, List.singleton_append]

theorem segments_gap (hg : IsGap gap) (ahead : rest = [] ∨ wordAhead rest = true) :
    segments (gap ++ rest) = gap :: segments rest := by
  have alone : segments gap = [gap] := segments_of_uniform hg.1 hg.2
  rcases ahead with rfl | ahead
  · rw [List.append_nil, alone]
    rfl
  · rw [segments_append_of_word (wordBehind_of_uniform hg.1 hg.2 false) ahead, alone,
      List.singleton_append]

theorem bounded_of_segments (split : segments cs = before ++ w :: after) (hw : IsRun w) :
    wordBehind false before.flatten = false ∧ wordAhead after.flatten = false := by
  have chain := List.isChain_getLast_head_splitBy (fun c d => isWord c == isWord d) cs
  rw [← segments, split, List.isChain_append] at chain
  obtain ⟨-, behind, ahead⟩ := chain
  constructor
  · rcases List.eq_nil_or_concat before with rfl | ⟨more, s, rfl⟩
    · rfl
    · obtain ⟨hs, some, change⟩ := ahead s (by simp) w (by simp)
      rw [hw.2 _ (List.head_mem some), beq_eq_false_iff_ne, ne_eq, Bool.not_eq_true] at change
      rw [List.concat_eq_append, List.flatten_append, List.flatten_singleton, wordBehind_append,
        wordBehind_eq_getLast?, List.getLast?_eq_some_getLast hs]
      exact change
  · cases after with
    | nil => rfl
    | cons s after =>
      obtain ⟨some, hs, change⟩ := (List.isChain_cons_cons.mp behind).1
      rw [hw.2 _ (List.getLast_mem some), beq_eq_false_iff_ne, ne_comm, ne_eq, Bool.not_eq_true]
        at change
      rw [List.flatten_cons, wordAhead_eq_head?, List.head?_append, List.head?_eq_some_head hs]
      exact change

theorem length_flatten_le_iff (front : segs <+: segments cs) (front' : segs' <+: segments cs) :
    segs.flatten.length ≤ segs'.flatten.length ↔ segs.length ≤ segs'.length := by
  rcases List.prefix_or_prefix_of_prefix front front' with ⟨more, rfl⟩ | ⟨more, rfl⟩
  · simp
  · have some : ∀ s ∈ more, s ≠ [] := fun s member =>
      ne_nil_of_mem_segments (front.subset (List.mem_append_right segs' member))
    have none : more.flatten.length = 0 ↔ more.length = 0 := by
      rw [List.length_eq_zero_iff, List.length_eq_zero_iff, List.flatten_eq_nil_iff,
        List.eq_nil_iff_forall_not_mem]
      exact forall_congr' fun s =>
        ⟨fun empty member => some s member (empty member), fun absent member => absurd member absent⟩
    rw [List.flatten_append, List.length_append, List.length_append]
    omega

theorem segments_name_blanks (hw : IsName w) (hb : Blanks b) (ahead : wordAhead rest = true) :
    segments (w ++ (b ++ rest)) = w :: b :: segments rest := by
  rw [segments_run hw.isRun (hb.wordAhead_append _),
    segments_gap ⟨hb.1, hb.not_isWord⟩ (Or.inr ahead)]

end Segments

/-- The front up to where the kind of characters changes. -/
theorem exists_front (b : Bool) (cs : List Char) : ∃ front rest, cs = front ++ rest ∧
    (∀ c ∈ front, isWord c = b) ∧ (rest = [] ∨ wordAhead rest = !b) := by
  induction cs with
  | nil => exact ⟨[], [], rfl, by simp, Or.inl rfl⟩
  | cons c cs ih =>
    by_cases same : isWord c = b
    · obtain ⟨front, rest, rfl, all, stop⟩ := ih
      exact ⟨c :: front, rest, rfl, List.forall_mem_cons.mpr ⟨same, all⟩, stop⟩
    · exact ⟨[], c :: cs, rfl, by simp, Or.inr (by simpa [wordAhead, Bool.eq_not] using same)⟩

/-- A text is empty, or it begins with a word or a gap, and goes on behind that. -/
theorem segments_induction {P : List Char → Prop} (nil : P [])
    (run : ∀ w rest, IsRun w → wordAhead rest = false → P rest → P (w ++ rest))
    (gap : ∀ g rest, IsGap g → rest = [] ∨ wordAhead rest = true → P rest → P (g ++ rest))
    (cs : List Char) : P cs := by
  induction length : cs.length using Nat.strongRecOn generalizing cs with
  | ind n ih =>
    cases cs with
    | nil => exact nil
    | cons c cs =>
      obtain ⟨front, rest, rfl, same, stop⟩ := exists_front (isWord c) cs
      have less : rest.length < n := by
        rw [← length, List.length_cons, List.length_append]
        omega
      have shorter : P rest := ih rest.length less rest rfl
      have all : ∀ d ∈ c :: front, isWord d = isWord c := List.forall_mem_cons.mpr ⟨rfl, same⟩
      rw [← List.cons_append]
      cases word : isWord c with
      | true =>
        rw [word] at all stop
        refine run _ rest ⟨List.cons_ne_nil c front, all⟩ ?_ shorter
        rcases stop with rfl | stop
        · rfl
        · exact stop
      | false =>
        rw [word] at all stop
        exact gap _ rest ⟨List.cons_ne_nil c front, all⟩ stop shorter

section Words

variable {w gap rest : List Char}

@[simp] theorem words_nil : words [] = [] := rfl

theorem words_run (hw : IsRun w) (stop : wordAhead rest = false) :
    words (w ++ rest) = w :: words rest := by
  have all : w.all isWord = true := List.all_eq_true.mpr hw.2
  rw [words, segments_run hw stop, List.filter_cons, if_pos all, ← words]

theorem words_gap_of_ahead (hg : IsGap gap) (ahead : rest = [] ∨ wordAhead rest = true) :
    words (gap ++ rest) = words rest := by
  have others : ¬ gap.all isWord = true := by
    obtain ⟨c, gap, rfl⟩ := List.exists_cons_of_ne_nil hg.1
    simp [hg.2 c List.mem_cons_self]
  rw [words, segments_gap hg ahead, List.filter_cons, if_neg others, ← words]

theorem words_gap (others : ∀ c ∈ gap, isWord c = false) (rest : List Char) :
    words (gap ++ rest) = words rest := by
  by_cases none : gap = []
  · rw [none, List.nil_append]
  · obtain ⟨more, rest, rfl, all, stop⟩ := exists_front false rest
    have wide : ∀ c ∈ gap ++ more, isWord c = false := List.forall_mem_append.mpr ⟨others, all⟩
    rw [← List.append_assoc, words_gap_of_ahead ⟨by simp [none], wide⟩ stop]
    by_cases none' : more = []
    · rw [none', List.nil_append]
    · rw [words_gap_of_ahead ⟨none', all⟩ stop]

theorem words_append_gap (others : ∀ c ∈ gap, isWord c = false) (cs : List Char) :
    words (cs ++ gap) = words cs := by
  induction cs using segments_induction with
  | nil => simpa using words_gap others []
  | run w rest hw stop ih =>
    have stop' : wordAhead (rest ++ gap) = false := by
      cases rest with
      | nil =>
        cases gap with
        | nil => rfl
        | cons c gap => exact others c List.mem_cons_self
      | cons c rest => exact stop
    rw [List.append_assoc, words_run hw stop', words_run hw stop, ih]
  | gap g rest hg ahead ih =>
    rw [List.append_assoc, words_gap hg.2, words_gap hg.2, ih]

@[simp] theorem words_trim (cs : List Char) : words (trim cs) = words cs := by
  obtain ⟨front, back, hf, hb, split⟩ := exists_trim cs
  conv => rhs; rw [split]
  rw [words_append_gap (isWord_of_allBlank hb), words_gap (isWord_of_allBlank hf)]

end Words

end PuzzlePrep

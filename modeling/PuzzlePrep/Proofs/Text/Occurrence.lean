import Mathlib.Logic.Basic
import Mathlib.Logic.ExistsUnique
import PuzzlePrep.Text.Newlines

namespace PuzzlePrep.Text

variable {word cs before rest : List Char}

theorem after?_eq_some_iff {word cs rest : List Char} :
    after? word cs = some rest ↔ cs = word ++ rest := by
  induction word generalizing cs with
  | nil => simp [after?]
  | cons w word ih =>
    cases cs with
    | nil => simp [after?]
    | cons c cs =>
      by_cases same : w = c
      · subst same
        simpa [after?] using ih
      · simp [after?, same, Ne.symm same]

theorem after?_nil (proper : word ≠ []) : after? word [] = none := by
  cases word with
  | nil => exact absurd rfl proper
  | cons w word => rfl

theorem startsWith_iff : startsWith word cs = true ↔ ∃ rest, cs = word ++ rest := by
  simp [startsWith, Option.isSome_iff_exists, after?_eq_some_iff]

def OccursAt (word before cs : List Char) : Prop := ∃ rest, cs = before ++ word ++ rest

def Occurs (word cs : List Char) : Prop := ∃ before, OccursAt word before cs

theorem occursAt_nil : OccursAt word [] cs ↔ startsWith word cs = true := by
  rw [startsWith_iff]
  rfl

theorem occursAt_cons_cons {b c : Char} :
    OccursAt word (b :: before) (c :: cs) ↔ b = c ∧ OccursAt word before cs := by
  simp only [OccursAt, List.cons_append, List.cons.injEq]
  constructor
  · rintro ⟨rest, same, split⟩
    exact ⟨same.symm, rest, split⟩
  · rintro ⟨same, rest, split⟩
    exact ⟨rest, same.symm, split⟩

theorem not_occursAt_empty (proper : word ≠ []) : ¬ OccursAt word before [] := by
  rintro ⟨rest, split⟩
  simp_all

theorem Occurs.append_left (h : Occurs word cs) (front : List Char) : Occurs word (front ++ cs) := by
  obtain ⟨before, rest, rfl⟩ := h
  exact ⟨front ++ before, rest, by simp⟩

theorem Occurs.append_right (h : Occurs word cs) (back : List Char) : Occurs word (cs ++ back) := by
  obtain ⟨before, rest, rfl⟩ := h
  exact ⟨before, rest ++ back, by simp⟩

theorem occurs_cons_iff {c : Char} :
    Occurs word (c :: cs) ↔ startsWith word (c :: cs) = true ∨ Occurs word cs := by
  rw [← occursAt_nil]
  constructor
  · rintro ⟨before, h⟩
    cases before with
    | nil => exact Or.inl h
    | cons b before => exact Or.inr ⟨before, (occursAt_cons_cons.mp h).2⟩
  · rintro (h | h)
    · exact ⟨[], h⟩
    · exact h.append_left [c]

/-- Where nothing is found at the front, what is found first is found first behind one character. -/
theorem first_cons_iff {P Q : List Char → Prop} {c : Char} (away : ¬ P [])
    (step : ∀ b before, P (b :: before) ↔ b = c ∧ Q before) (before : List Char) :
    (∀ earlier, P earlier → (c :: before).length ≤ earlier.length) ↔
      ∀ earlier, Q earlier → before.length ≤ earlier.length := by
  constructor
  · intro first earlier found
    exact Nat.le_of_succ_le_succ (first (c :: earlier) ((step c earlier).mpr ⟨rfl, found⟩))
  · intro first earlier found
    cases earlier with
    | nil => exact absurd found away
    | cons b earlier => exact Nat.succ_le_succ (first earlier ((step b earlier).mp found).2)

theorem cutAt?_eq_some_iff (proper : word ≠ []) :
    cutAt? word cs = some (before, rest) ↔ cs = before ++ word ++ rest ∧
      ∀ earlier, OccursAt word earlier cs → before.length ≤ earlier.length := by
  induction cs generalizing before with
  | nil => simp [cutAt?, after?_nil proper, proper]
  | cons c cs ih =>
    cases here : after? word (c :: cs) with
    | some r =>
      have split := after?_eq_some_iff.mp here
      simp only [cutAt?, here, Option.some.injEq, Prod.mk.injEq]
      constructor
      · rintro ⟨rfl, rfl⟩
        exact ⟨by simpa using split, fun _ _ => Nat.zero_le _⟩
      · rintro ⟨other, first⟩
        have short := first [] ⟨r, by simpa using split⟩
        have empty : before = [] := List.eq_nil_of_length_eq_zero (Nat.le_zero.mp short)
        subst empty
        rw [split, List.nil_append, List.append_cancel_left_eq] at other
        exact ⟨rfl, other⟩
    | none =>
      -- The word does not stand here, so the first place is the one in the rest, one character later.
      have away : ¬ OccursAt word [] (c :: cs) := by simp [occursAt_nil, startsWith, here]
      simp only [cutAt?, here, Option.map_eq_some_iff, Prod.exists]
      constructor
      · rintro ⟨b, r, found, pair⟩
        cases pair
        obtain ⟨split, first⟩ := ih.mp found
        refine ⟨by rw [List.cons_append, List.cons_append, ← split], ?_⟩
        exact (first_cons_iff away (fun _ _ => occursAt_cons_cons) b).mpr first
      · rintro ⟨split, first⟩
        cases before with
        | nil => exact absurd ⟨rest, split⟩ away
        | cons b before =>
          simp only [List.cons_append, List.cons.injEq] at split
          obtain ⟨rfl, split⟩ := split
          have first := (first_cons_iff away (fun _ _ => occursAt_cons_cons) before).mp first
          exact ⟨before, rest, ih.mpr ⟨split, first⟩, rfl⟩

theorem cutAt?_eq_none_iff (proper : word ≠ []) : cutAt? word cs = none ↔ ¬ Occurs word cs := by
  induction cs with
  | nil => simp [cutAt?, after?_nil proper, Occurs, not_occursAt_empty proper]
  | cons c cs ih =>
    rw [occurs_cons_iff, startsWith, not_or, ← ih, cutAt?]
    cases after? word (c :: cs) <;> simp

theorem cutAt?_split (proper : word ≠ []) (h : cutAt? word cs = some (before, rest)) :
    cs = before ++ word ++ rest := ((cutAt?_eq_some_iff proper).mp h).1

theorem indexOf?_eq_map_cutAt? (word cs : List Char) :
    indexOf? word cs = (cutAt? word cs).map fun (before, _) => before.length := by
  induction cs with
  | nil => cases h : after? word [] <;> simp [indexOf?, cutAt?, startsWith, h]
  | cons c cs ih =>
    cases h : after? word (c :: cs) <;>
      simp [indexOf?, cutAt?, startsWith, h, ih, Function.comp_def]

theorem contains_iff (proper : word ≠ []) : contains word cs = true ↔ Occurs word cs := by
  rw [contains, indexOf?_eq_map_cutAt?, Option.isSome_map, ← not_iff_not,
    ← cutAt?_eq_none_iff proper]
  simp

theorem countOf_eq_zero_iff (proper : word ≠ []) : countOf word cs = 0 ↔ ¬ Occurs word cs := by
  induction cs with
  | nil => simp [countOf, startsWith, after?_nil proper, Occurs, not_occursAt_empty proper]
  | cons c cs ih =>
    rw [occurs_cons_iff, not_or, ← ih]
    cases h : startsWith word (c :: cs) <;> simp [countOf, h]

section Once

variable {c : Char}

theorem existsUnique_occursAt_of_front (front : OccursAt word [] (c :: cs)) :
    (∃! before, OccursAt word before (c :: cs)) ↔ ¬ Occurs word cs := by
  constructor
  · rintro ⟨first, -, only⟩ ⟨before, occurs⟩
    have more := only (c :: before) (occursAt_cons_cons.mpr ⟨rfl, occurs⟩)
    exact List.cons_ne_nil _ _ (more.trans (only [] front).symm)
  · intro once
    refine ⟨[], front, ?_⟩
    intro before occurs
    cases before with
    | nil => rfl
    | cons b before => exact absurd ⟨before, (occursAt_cons_cons.mp occurs).2⟩ once

theorem existsUnique_occursAt_of_away (away : ¬ OccursAt word [] (c :: cs)) :
    (∃! before, OccursAt word before (c :: cs)) ↔ ∃! before, OccursAt word before cs := by
  constructor
  · rintro ⟨before, occurs, only⟩
    cases before with
    | nil => exact absurd occurs away
    | cons b before =>
      refine ⟨before, (occursAt_cons_cons.mp occurs).2, ?_⟩
      intro other occurs'
      have same := only (c :: other) (occursAt_cons_cons.mpr ⟨rfl, occurs'⟩)
      exact (List.cons.inj same).2
  · rintro ⟨before, occurs, only⟩
    refine ⟨c :: before, occursAt_cons_cons.mpr ⟨rfl, occurs⟩, ?_⟩
    intro other occurs'
    cases other with
    | nil => exact absurd occurs' away
    | cons o other =>
      obtain ⟨same, behind⟩ := occursAt_cons_cons.mp occurs'
      rw [same, only other behind]

theorem countOf_eq_one_iff (proper : word ≠ []) :
    countOf word cs = 1 ↔ ∃! before, OccursAt word before cs := by
  induction cs with
  | nil =>
    simp [countOf, startsWith, after?_nil proper, ExistsUnique, not_occursAt_empty proper]
  | cons c cs ih =>
    cases here : startsWith word (c :: cs) with
    | true =>
      rw [existsUnique_occursAt_of_front (occursAt_nil.mpr here), ← countOf_eq_zero_iff proper]
      simp [countOf, here]
    | false =>
      have count : countOf word (c :: cs) = countOf word cs := by simp [countOf, here]
      rw [existsUnique_occursAt_of_away (by simp [occursAt_nil, here]), count, ih]

end Once

theorem OccursAt.unique {other : List Char} (proper : word ≠ []) (once : countOf word cs = 1)
    (h : OccursAt word before cs) (h' : OccursAt word other cs) : before = other :=
  ((countOf_eq_one_iff proper).mp once).unique h h'

theorem cutAt?_of_countOf_eq_one (proper : word ≠ []) (once : countOf word cs = 1)
    (split : cs = before ++ word ++ rest) : cutAt? word cs = some (before, rest) := by
  rw [cutAt?_eq_some_iff proper]
  refine ⟨split, ?_⟩
  intro earlier occurs
  exact Nat.le_of_eq (congrArg List.length (OccursAt.unique proper once ⟨rest, split⟩ occurs))

theorem not_occurs_behind (proper : word ≠ []) (once : countOf word cs = 1)
    (split : cs = before ++ word ++ rest) : ¬ Occurs word rest := by
  rintro ⟨between, later, again⟩
  have second : cs = before ++ word ++ between ++ word ++ later := by rw [split, again]; simp
  have same : before = before ++ word ++ between :=
    OccursAt.unique proper once ⟨rest, split⟩ ⟨later, second⟩
  have lengths := congrArg List.length same
  have positive := List.length_pos_iff.mpr proper
  simp only [List.length_append] at lengths
  omega

theorem countOf_suffix_le (word front cs : List Char) : countOf word cs ≤ countOf word (front ++ cs) := by
  induction front with
  | nil => exact Nat.le_refl _
  | cons c front ih =>
    rw [List.cons_append, countOf]
    omega

theorem countOf_suffix_eq_one {front : List Char} (proper : word ≠ [])
    (once : countOf word (front ++ cs) = 1) (occurs : Occurs word cs) : countOf word cs = 1 := by
  have few := countOf_suffix_le word front cs
  have some : countOf word cs ≠ 0 := fun zero => (countOf_eq_zero_iff proper).mp zero occurs
  omega

end PuzzlePrep.Text

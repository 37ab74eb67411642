import PuzzlePrep.Answer.Statement
import PuzzlePrep.Proofs.Answer.Phrase
import PuzzlePrep.Proofs.Text.Occurrence

namespace PuzzlePrep

open Text

def IsStatement (name : List Char) (role : Role) (text : List Char) : Prop :=
  ∃ n phrase r, text = n ++ phrase ++ r ∧ SameText name n ∧ IsA phrase ∧ SameText role.word r

def wordBehind : Bool → List Char → Bool
  | behind, [] => behind
  | _, c :: cs => wordBehind (isWord c) cs

/-- A whole statement begins right behind `before`; `behind` tells whether a word character stands
before the text. -/
def StatementAt (name : List Char) (role : Role) (behind : Bool) (before text : List Char) : Prop :=
  ∃ statement after, text = before ++ statement ++ after ∧ IsStatement name role statement ∧
    wordBehind behind before = false ∧ wordAhead after = false

def LeftmostStatement (name : List Char) (role : Role) (text : List Char) : Prop :=
  ∃ before, StatementAt name role false before text ∧
    ∀ role' before', StatementAt name role' false before' text → before.length ≤ before'.length

def IsName (name : List Char) : Prop := name ≠ [] ∧ ∀ c ∈ name, isLetter c = true

instance : DecidablePred IsName := fun name =>
  decidable_of_iff (name ≠ [] ∧ name.all isLetter = true) (and_congr_right' List.all_eq_true)

theorem afterName?_eq_some_iff {name cs rest : List Char} {behind behind' : Bool} :
    afterName? name behind cs = some (behind', rest) ↔
      ∃ n, cs = n ++ rest ∧ SameText name n ∧ behind' = wordBehind behind n := by
  induction name generalizing behind cs with
  | nil =>
    simp only [afterName?, Option.some.injEq, Prod.mk.injEq, sameText_nil_left]
    constructor
    · rintro ⟨rfl, rfl⟩
      exact ⟨[], rfl, rfl, rfl⟩
    · rintro ⟨_, rfl, rfl, rfl⟩
      exact ⟨rfl, rfl⟩
  | cons c name ih =>
    cases cs with
    | nil =>
      simp only [afterName?, reduceCtorEq, false_iff]
      rintro ⟨n, split, same, -⟩
      cases n with
      | nil => simpa using same.length
      | cons => simp at split
    | cons d cs =>
      rw [afterName?]
      constructor
      · intro h
        split at h
        · rename_i letter
          obtain ⟨n, rfl, same, ends⟩ := ih.mp h
          exact ⟨d :: n, rfl, sameText_cons.mpr ⟨letter, same⟩, ends⟩
        · cases h
      · rintro ⟨n, split, same, ends⟩
        cases n with
        | nil => simpa using same.length
        | cons e n =>
          simp only [List.cons_append, List.cons.injEq] at split
          obtain ⟨rfl, rfl⟩ := split
          obtain ⟨letter, same⟩ := sameText_cons.mp same
          rw [if_pos letter]
          exact ih.mpr ⟨n, rfl, same, ends⟩

theorem IsName.of_sameText {name n : List Char} (h : IsName name) (same : SameText name n) :
    IsName n := by
  refine ⟨?_, letters_of_sameText same h.2⟩
  rintro rfl
  exact h.1 (List.eq_nil_of_length_eq_zero same.length)

theorem wordBehind_of_uniform {cs : List Char} {b : Bool} (some : cs ≠ [])
    (same : ∀ c ∈ cs, isWord c = b) (behind : Bool) : wordBehind behind cs = b := by
  induction cs generalizing behind with
  | nil => exact absurd rfl some
  | cons c cs ih =>
    rw [wordBehind]
    cases cs with
    | nil => exact same c List.mem_cons_self
    | cons d cs =>
      exact ih (List.cons_ne_nil _ _) (fun e member => same e (List.mem_cons_of_mem _ member)) _

theorem wordBehind_append (behind : Bool) (front back : List Char) :
    wordBehind behind (front ++ back) = wordBehind (wordBehind behind front) back := by
  induction front generalizing behind with
  | nil => rfl
  | cons c front ih => exact ih _

theorem IsName.isWord {name : List Char} (h : IsName name) : ∀ c ∈ name, isWord c = true :=
  fun c member => isWord_of_isLetter (h.2 c member)

theorem IsName.wordAhead_append {name : List Char} (h : IsName name) (rest : List Char) :
    wordAhead (name ++ rest) = true := wordAhead_of_uniform h.1 h.isWord rest

theorem boundary_iff {behind : Bool} {cs : List Char} :
    boundary behind cs = true ↔ behind ≠ wordAhead cs := by
  simp [boundary]

theorem statementAtStart?_eq (name : List Char) (behind : Bool) (cs : List Char) :
    statementAtStart? name behind cs =
      if boundary behind cs = true then
        (afterName? name behind cs).bind fun (behind', rest) =>
          if boundary behind' rest = true then (afterIsA? rest).bind Role.wordAtStart? else none
      else none := by
  rw [statementAtStart?]
  cases boundary behind cs with
  | false => rfl
  | true =>
    cases afterName? name behind cs with
    | none => rfl
    | some found => cases boundary found.1 found.2 <;> rfl

theorem statementAtStart?_eq_some_iff {name cs : List Char} {behind : Bool} {role : Role}
    (hn : IsName name) : statementAtStart? name behind cs = some role ↔ behind = false ∧
      ∃ n rest rest', cs = n ++ rest ∧ SameText name n ∧ wordAhead rest = false ∧
        afterIsA? rest = some rest' ∧ Role.wordAtStart? rest' = some role := by
  simp only [statementAtStart?_eq, Option.bind_eq_some_iff, Option.ite_none_right_eq_some,
    Prod.exists, boundary_iff]
  constructor
  · rintro ⟨start, behind', rest, found, stop, rest', read, word⟩
    obtain ⟨n, rfl, same, rfl⟩ := afterName?_eq_some_iff.mp found
    have hn' := hn.of_sameText same
    rw [hn'.wordAhead_append, ne_eq, Bool.not_eq_true] at start
    rw [wordBehind_of_uniform hn'.1 hn'.isWord, ne_comm, ne_eq, Bool.not_eq_true] at stop
    exact ⟨start, n, rest, rest', rfl, same, stop, read, word⟩
  · rintro ⟨rfl, n, rest, rest', rfl, same, stop, read, word⟩
    have hn' := hn.of_sameText same
    refine ⟨by simp [hn'.wordAhead_append], true, rest, ?_, by simp [stop], rest', read, word⟩
    exact afterName?_eq_some_iff.mpr
      ⟨n, rfl, same, (wordBehind_of_uniform hn'.1 hn'.isWord false).symm⟩

theorem IsA.wordAhead_append {phrase : List Char} (h : IsA phrase) (rest : List Char) :
    wordAhead (phrase ++ rest) = false := by
  obtain ⟨b₁, is, b₂, a, b₃, rfl, blanks, -, -, -, -⟩ := h
  simp only [List.append_assoc]
  exact blanks.wordAhead_append _

theorem statementAtStart?_iff_statementAt {name cs : List Char} {behind : Bool} {role : Role}
    (hn : IsName name) :
    statementAtStart? name behind cs = some role ↔ StatementAt name role behind [] cs := by
  rw [statementAtStart?_eq_some_iff hn]
  constructor
  · rintro ⟨rfl, n, rest, rest', rfl, same, -, read, word⟩
    obtain ⟨phrase, isA, rfl, -⟩ := afterIsA?_eq_some_iff.mp read
    obtain ⟨r, after, rfl, sameRole, stop⟩ := Role.wordAtStart?_eq_some_iff.mp word
    exact ⟨n ++ phrase ++ r, after, by simp, ⟨n, phrase, r, rfl, same, isA, sameRole⟩, rfl, stop⟩
  · rintro ⟨_, after, rfl, ⟨n, phrase, r, rfl, same, isA, sameRole⟩, start, stop⟩
    refine ⟨start, n, phrase ++ (r ++ after), r ++ after, by simp, same, isA.wordAhead_append _, ?_,
      Role.wordAtStart?_eq_some_iff.mpr ⟨r, after, rfl, sameRole, stop⟩⟩
    refine afterIsA?_eq_some_iff.mpr ⟨phrase, isA, rfl, ?_⟩
    exact blankAhead_of_sameText sameRole (by cases role <;> decide)

theorem statementAt_cons_cons {name cs before : List Char} {behind : Bool} {role : Role}
    {b c : Char} : StatementAt name role behind (b :: before) (c :: cs) ↔
      b = c ∧ StatementAt name role (isWord c) before cs := by
  simp only [StatementAt, List.cons_append, List.cons.injEq, wordBehind]
  constructor
  · rintro ⟨statement, after, ⟨rfl, rfl⟩, rest⟩
    exact ⟨rfl, statement, after, rfl, rest⟩
  · rintro ⟨rfl, statement, after, rfl, rest⟩
    exact ⟨statement, after, ⟨rfl, rfl⟩, rest⟩

theorem not_statementAt_nil {name before : List Char} {behind : Bool} {role : Role}
    (hn : IsName name) : ¬ StatementAt name role behind before [] := by
  rintro ⟨_, after, split, ⟨n, phrase, r, rfl, same, -, -⟩, -, -⟩
  have empty : n = [] := by simp_all
  exact (hn.of_sameText same).1 empty

theorem statedRole?_eq_some_iff_of_behind {name cs : List Char} {behind : Bool} {role : Role}
    (hn : IsName name) : statedRole? name behind cs = some role ↔
      ∃ before, StatementAt name role behind before cs ∧
        ∀ role' before', StatementAt name role' behind before' cs →
          before.length ≤ before'.length := by
  induction cs generalizing behind with
  | nil =>
    simp only [statedRole?, reduceCtorEq, false_iff]
    rintro ⟨before, found, -⟩
    exact not_statementAt_nil hn found
  | cons c cs ih =>
    cases here : statementAtStart? name behind (c :: cs) with
    | some r =>
      have front := (statementAtStart?_iff_statementAt hn).mp here
      simp only [statedRole?, here, Option.some.injEq]
      constructor
      · rintro rfl
        exact ⟨[], front, fun _ _ _ => Nat.zero_le _⟩
      · rintro ⟨before, found, first⟩
        have empty : before = [] :=
          List.eq_nil_of_length_eq_zero (Nat.le_zero.mp (first r [] front))
        subst empty
        have same := (statementAtStart?_iff_statementAt hn).mpr found
        exact Option.some.inj (here.symm.trans same)
    | none =>
      have away : ∀ r, ¬ StatementAt name r behind [] (c :: cs) := by
        intro r found
        rw [(statementAtStart?_iff_statementAt hn).mpr found] at here
        cases here
      simp only [statedRole?, here, ih]
      constructor
      · rintro ⟨before, found, first⟩
        refine ⟨c :: before, statementAt_cons_cons.mpr ⟨rfl, found⟩, fun r => ?_⟩
        exact (first_cons_iff (away r) (fun _ _ => statementAt_cons_cons) before).mpr (first r)
      · rintro ⟨before, found, first⟩
        cases before with
        | nil => exact absurd found (away role)
        | cons b before =>
          obtain ⟨rfl, found⟩ := statementAt_cons_cons.mp found
          refine ⟨before, found, fun r => ?_⟩
          exact (first_cons_iff (away r) (fun _ _ => statementAt_cons_cons) before).mp (first r)

theorem statedRole?_eq_some_iff {name text : List Char} {role : Role} (hn : IsName name) :
    statedRole? name false text = some role ↔ LeftmostStatement name role text :=
  statedRole?_eq_some_iff_of_behind hn

end PuzzlePrep

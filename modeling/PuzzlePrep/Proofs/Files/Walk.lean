import PuzzlePrep.Files.Walk
import PuzzlePrep.Proofs.Outcome

namespace PuzzlePrep

open PuzzlePrep.Path

def Path.trimmed (p : Path) : List (List Char) := (p.parts.reverse.dropWhile List.isEmpty).reverse

def Path.DotsLast (parts : List (List Char)) : Prop :=
  ∀ last, parts.getLast? = some last → last = ['.'] ∨ last = ['.', '.']

namespace Tree

def start (t : Tree) (p : Path) : Location := if p.isAbsolute then [] else t.workdir

def Fits (p : Path) : Prop :=
  p.text.toList.contains '\x00' = false ∧ p.text.utf8ByteSize ≤ pathLimit

structure KeepsDirectories (t t' : Tree) : Prop where
  workdir : t'.workdir = t.workdir
  directory : ∀ l, t.get? l = some .directory → t'.get? l = some .directory

theorem KeepsDirectories.refl (t : Tree) : KeepsDirectories t t := ⟨rfl, fun _ h => h⟩

theorem KeepsDirectories.trans {t t' t'' : Tree} (first : KeepsDirectories t t')
    (second : KeepsDirectories t' t'') : KeepsDirectories t t'' :=
  ⟨second.workdir.trans first.workdir, fun l h => second.directory l (first.directory l h)⟩

variable {t t' : Tree} {p : Path} {s : Spot}

theorem KeepsDirectories.start (keeps : KeepsDirectories t t') (p : Path) : t'.start p = t.start p := by
  rw [Tree.start, Tree.start, keeps.workdir]

theorem look_eq_ok_iff {here : Location} {name : String} {e : Option Entry} :
    t.look here name = .ok e ↔ name.utf8ByteSize ≤ nameLimit ∧ t.get? (here ++ [name]) = e := by
  rw [look]
  split
  · rename_i long
    exact ⟨nofun, fun h => absurd h.1 (by omega)⟩
  · rename_i short
    rw [Except.ok.injEq]
    exact ⟨fun h => ⟨by omega, h⟩, And.right⟩

/-- The ways to enter a part of a path: a dot stays, two dots go up, a name goes into a directory. -/
theorem enter_eq_ok_iff {here there : Location} {part : List Char} :
    t.enter here part = .ok there ↔ (Path.silent part = true ∧ there = here) ∨
      (Path.silent part = false ∧ part = ['.', '.'] ∧ there = here.dropLast) ∨
      (Path.silent part = false ∧ part ≠ ['.', '.'] ∧
        t.look here (String.ofList part) = .ok (some .directory) ∧
        there = here ++ [String.ofList part]) := by
  unfold enter
  cases silent : Path.silent part with
  | true => simp [eq_comm]
  | false =>
    by_cases up : part = ['.', '.']
    · simp [up, eq_comm]
    · have down : (part == ['.', '.']) = false := by simpa using up
      simp only [Bool.false_eq_true, if_false, down]
      split <;> rename_i found <;> simp [found, up, eq_comm]

theorem enter_of_keeps (keeps : KeepsDirectories t t') {here there : Location} {part : List Char}
    (h : t.enter here part = .ok there) : t'.enter here part = .ok there := by
  rw [enter_eq_ok_iff] at h ⊢
  rcases h with stays | up | ⟨named, down, found, rfl⟩
  · exact Or.inl stays
  · exact Or.inr (Or.inl up)
  · obtain ⟨short, directory⟩ := look_eq_ok_iff.mp found
    have found' := look_eq_ok_iff.mpr ⟨short, keeps.directory _ directory⟩
    exact Or.inr (Or.inr ⟨named, down, found', rfl⟩)

theorem walk_of_keeps (keeps : KeepsDirectories t t') {here there : Location}
    {parts : List (List Char)} (h : t.walk here parts = .ok there) :
    t'.walk here parts = .ok there := by
  induction parts generalizing here with
  | nil => exact h
  | cons part parts ih =>
    rw [walk, List.foldlM_cons] at h ⊢
    obtain ⟨next, entered, walked⟩ := bind_eq_ok.mp h
    rw [enter_of_keeps keeps entered]
    exact ih walked

theorem walk_append (t : Tree) (here : Location) (front back : List (List Char)) :
    t.walk here (front ++ back) = t.walk here front >>= fun there => t.walk there back :=
  List.foldlM_append

theorem walk_concat (t : Tree) (here : Location) (front : List (List Char)) (last : List Char) :
    t.walk here (front ++ [last]) = t.walk here front >>= fun there => t.enter there last := by
  rw [walk_append]
  refine congrArg _ (funext fun there => ?_)
  simp [walk]

theorem exists_walk_of_prefix {here there : Location} {parts whole : List (List Char)}
    (before : parts <+: whole) (walked : t.walk here whole = .ok there) :
    ∃ there, t.walk here parts = .ok there := by
  obtain ⟨more, rfl⟩ := before
  rw [walk_append] at walked
  obtain ⟨between, first, -⟩ := bind_eq_ok.mp walked
  exact ⟨between, first⟩

section Parts

variable {begin : Location} {slash : Bool} {front parts : List (List Char)} {last : List Char}

theorem spotOf_of_dots (dotted : last = ['.'] ∨ last = ['.', '.']) :
    t.spotOf begin slash (front ++ [last]) =
      (t.walk begin (front ++ [last])).map Spot.directory := by
  have ends : (last == ['.'] || last == ['.', '.']) = true := by simpa using dotted
  rw [spotOf, List.getLast?_concat, List.dropLast_concat, walk_concat]
  simp only [ends, if_true]
  cases t.walk begin front with
  | error f => rfl
  | ok here =>
    rw [ok_bind, ok_bind]
    cases t.enter here last <;> rfl

theorem spotOf_of_name (named : ¬ (last = ['.'] ∨ last = ['.', '.'])) :
    t.spotOf begin slash (front ++ [last]) = t.walk begin front >>= fun here =>
      if nameLimit < (String.ofList last).utf8ByteSize then .error .nameTooLong
      else .ok (.named here (String.ofList last) slash) := by
  have ends : (last == ['.'] || last == ['.', '.']) = false := by simpa using named
  rw [spotOf, List.getLast?_concat, List.dropLast_concat]
  simp only [ends, Bool.false_eq_true, if_false]
  refine congrArg _ (funext fun here => ?_)
  split <;> rfl

/-- A path is followed to its end if it ends in dots, else up to the name at its end. -/
theorem spotOf_eq_ok_iff : t.spotOf begin slash parts = .ok s ↔
    (DotsLast parts ∧ ∃ there, t.walk begin parts = .ok there ∧ s = .directory there) ∨
    ∃ front last here, parts = front ++ [last] ∧ ¬ (last = ['.'] ∨ last = ['.', '.']) ∧
      t.walk begin front = .ok here ∧ (String.ofList last).utf8ByteSize ≤ nameLimit ∧
      s = .named here (String.ofList last) slash := by
  rcases List.eq_nil_or_concat parts with rfl | ⟨front, last, rfl⟩
  · constructor
    · intro leads
      cases leads
      exact Or.inl ⟨nofun, begin, rfl, rfl⟩
    · rintro (⟨-, there, walked, rfl⟩ | ⟨front, last, here, split, -⟩)
      · cases walked
        rfl
      · simp at split
  · rw [List.concat_eq_append]
    by_cases dotted : last = ['.'] ∨ last = ['.', '.']
    · have dots : DotsLast (front ++ [last]) := by simpa [DotsLast] using dotted
      rw [spotOf_of_dots dotted, map_eq_ok]
      constructor
      · rintro ⟨there, walked, rfl⟩
        exact Or.inl ⟨dots, there, walked, rfl⟩
      · rintro (⟨-, there, walked, rfl⟩ | ⟨_, _, here, split, named, -⟩)
        · exact ⟨there, walked, rfl⟩
        · cases (List.append_inj' split rfl).2
          exact absurd dotted named
    · rw [spotOf_of_name dotted, bind_eq_ok]
      constructor
      · rintro ⟨here, walked, leads⟩
        split at leads
        · cases leads
        · rename_i short
          exact Or.inr ⟨front, last, here, rfl, dotted, walked, by omega,
            (Except.ok.inj leads).symm⟩
      · rintro (⟨dots, -⟩ | ⟨_, _, here, split, -, walked, short, rfl⟩)
        · exact absurd (dots last List.getLast?_concat) dotted
        · obtain ⟨rfl, same⟩ := List.append_inj' split rfl
          cases same
          exact ⟨here, walked, if_neg (by omega)⟩

end Parts

theorem spot_eq_ok_iff : t.spot p = .ok s ↔ Fits p ∧ p.text ≠ "" ∧
    t.spotOf (t.start p) (p.trimmed.length < p.parts.length) p.trimmed = .ok s := by
  rw [spot, Fits]
  cases nul : p.text.toList.contains '\x00' with
  | true => simp
  | false =>
    by_cases empty : p.text = ""
    · simp [empty]
    · by_cases long : pathLimit < p.text.utf8ByteSize
      · have exceeds : ¬ p.text.utf8ByteSize ≤ pathLimit := by omega
        simp [empty, long, exceeds]
      · have fits : p.text.utf8ByteSize ≤ pathLimit := by omega
        simp only [Bool.false_eq_true, if_false, empty, long, fits, true_and, ne_eq,
          not_false_eq_true]
        rfl

theorem spotOf_of_keeps (keeps : KeepsDirectories t t') {begin : Location} {slash : Bool}
    {parts : List (List Char)} (h : t.spotOf begin slash parts = .ok s) :
    t'.spotOf begin slash parts = .ok s := by
  rw [spotOf_eq_ok_iff] at h ⊢
  rcases h with ⟨dots, there, walked, leads⟩ | ⟨front, last, here, split, named, walked, leads⟩
  · exact Or.inl ⟨dots, there, walk_of_keeps keeps walked, leads⟩
  · exact Or.inr ⟨front, last, here, split, named, walk_of_keeps keeps walked, leads⟩

theorem spot_of_keeps (keeps : KeepsDirectories t t') (h : t.spot p = .ok s) : t'.spot p = .ok s := by
  rw [spot_eq_ok_iff] at h ⊢
  rw [keeps.start]
  exact ⟨h.1, h.2.1, spotOf_of_keeps keeps h.2.2⟩

end Tree

end PuzzlePrep

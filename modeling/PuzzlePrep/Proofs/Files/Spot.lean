import PuzzlePrep.Proofs.Files.Place

namespace PuzzlePrep

open PuzzlePrep.Path

def Spot.location : Spot → Location
  | .directory l => l
  | .named parent name _ => parent ++ [name]

namespace Path

section Trimmed

theorem trimmed_prefix (p : Path) : p.trimmed <+: p.parts := by
  have suffix := List.dropWhile_suffix (l := p.parts.reverse) List.isEmpty
  rw [← List.reverse_prefix, List.reverse_reverse] at suffix
  exact suffix

theorem getLast?_trimmed {p : Path} {last : List Char} (found : p.trimmed.getLast? = some last) :
    last ≠ [] := by
  rw [trimmed, List.getLast?_reverse] at found
  have first := List.head?_dropWhile_not List.isEmpty p.parts.reverse
  rw [found] at first
  simpa using first

theorem past_of_silent {part : List Char} (silent : silent part = true) (here : Location) :
    past here part = here := by
  simp [past, silent]

theorem along_of_silent {parts : List (List Char)} (all : ∀ part ∈ parts, silent part = true)
    (here : Location) : along here parts = here := by
  induction parts generalizing here with
  | nil => rfl
  | cons part parts ih =>
    obtain ⟨head, tail⟩ := List.forall_mem_cons.mp all
    exact (ih tail _).trans (past_of_silent head here)

theorem along_dropWhile {stop : List Char → Bool} (quiet : ∀ part, stop part = true → silent part = true)
    (parts : List (List Char)) (here : Location) :
    along here (parts.reverse.dropWhile stop).reverse = along here parts := by
  have split := congrArg List.reverse (List.takeWhile_append_dropWhile (p := stop) (l := parts.reverse))
  rw [List.reverse_append, List.reverse_reverse] at split
  conv_rhs => rw [← split, along_append]
  refine (along_of_silent (fun part member => quiet part ?_) _).symm
  exact List.all_eq_true.mp List.all_takeWhile part (List.mem_reverse.mp member)

theorem along_trimmed (p : Path) (here : Location) : along here p.trimmed = along here p.parts :=
  along_dropWhile (fun part empty => by simp [silent, empty]) p.parts here

theorem along_namingParts (absolute : Bool) (parts : List (List Char)) (here : Location) :
    along here (namingParts absolute parts) = along here parts := by
  rw [namingParts.eq_def]
  split
  · exact along_dropWhile (fun _ => id) _ _
  · exact along_dropWhile (fun _ => id) _ _

end Trimmed

section Naming

variable {absolute : Bool} {parts front : List (List Char)} {last : List Char}

theorem not_silent_of_dropSilent (split : dropSilent parts = front ++ [last]) :
    silent last = false := by
  have found : (dropSilent parts).getLast? = some last := by rw [split, List.getLast?_concat]
  rw [dropSilent, List.getLast?_reverse] at found
  have first := List.head?_dropWhile_not silent parts.reverse
  rw [found] at first
  simpa using first

/-- The last part that names something is not silent, unless it is the dot at the front of a relative
path. -/
theorem not_silent_of_namingParts (split : namingParts absolute parts = front ++ [last]) :
    silent last = false ∨ front = [] ∧ last = ['.'] := by
  rw [namingParts.eq_def] at split
  split at split
  · rename_i rest
    cases front with
    | nil => exact Or.inr ⟨rfl, (List.cons.inj split).1.symm⟩
    | cons first front => exact Or.inl (not_silent_of_dropSilent (List.cons.inj split).2)
  · exact Or.inl (not_silent_of_dropSilent split)

end Naming

section Sibling

variable {p q base : Path} {name : String}

theorem along_above (base : Path) (here : Location) : along here base.above = along here base.parts := by
  rcases base.parts_above with whole | whole
  · rw [whole, along_append]
    rfl
  · rw [whole]

theorem exists_last_of_fileName? (found : p.fileName? = some name) : ∃ front last,
    namingParts p.isAbsolute p.parts = front ++ [last] ∧ silent last = false ∧
      last ≠ ['.', '.'] ∧ name = String.ofList last := by
  rw [fileName?] at found
  split at found
  · cases found
  · rename_i last ends
    split at found
    · cases found
    · rename_i other
      obtain ⟨front, split⟩ := List.getLast?_eq_some_iff.mp ends
      have plain : last ≠ ['.'] ∧ last ≠ ['.', '.'] := by simpa using other
      refine ⟨front, last, split, ?_, plain.2, (Option.some.inj found).symm⟩
      rcases not_silent_of_namingParts split with named | ⟨-, dot⟩
      · exact named
      · exact absurd dot plain.1

theorem plainName_temporary (found : p.fileName? = some name) : PlainName (name ++ ".tmp") := by
  obtain ⟨front, last, split, -, -, rfl⟩ := exists_last_of_fileName? found
  have inside : last ∈ p.parts := by
    apply (namingParts_prefix_self p.isAbsolute p.parts).subset
    rw [split]
    simp
  have text : (String.ofList last ++ ".tmp").toList = last ++ ['.', 't', 'm', 'p'] := by simp
  refine ⟨?_, ?_, ?_, ?_⟩ <;> rw [text]
  · simp
  · intro same
    simpa using congrArg List.length same
  · intro same
    simpa using congrArg List.length same
  · simpa using slash_not_mem_parts inside

theorem exists_parent_of_fileName? (found : p.fileName? = some name) : ∃ q, p.parent? = some q := by
  obtain ⟨front, last, split, -⟩ := exists_last_of_fileName? found
  exact ⟨_, by rw [parent?, split]; exact if_neg (by simp)⟩

theorem temporary_eq (p : Path) : (∃ name q, p.fileName? = some name ∧ p.parent? = some q ∧
      p.temporary = q / (name ++ ".tmp")) ∨ p.fileName? = none ∧ p.temporary = p / ".tmp" := by
  cases found : p.fileName? with
  | none =>
    right
    rw [temporary, withFileName, found]
    exact ⟨rfl, rfl⟩
  | some name =>
    left
    obtain ⟨q, parent⟩ := exists_parent_of_fileName? found
    refine ⟨name, q, rfl, parent, ?_⟩
    rw [temporary, withFileName, found, parent]
    rfl

end Sibling

end Path

namespace Tree

variable {t t' : Tree} {p q : Path} {s : Spot}

def placeOf (t : Tree) (p : Path) : Location := along (t.start p) p.parts

theorem placeOf_congr (same : t'.workdir = t.workdir) (p : Path) : t'.placeOf p = t.placeOf p := by
  rw [placeOf, placeOf, start, start, same]

section Sibling

theorem placeOf_div (t : Tree) {base : Path} {name : String} (plain : PlainName name) :
    t.placeOf (base / name) = t.placeOf base ++ [name] := by
  rw [placeOf, start_div plain, parts_div plain, along_append, along_above]
  exact past_of_plainName plain _

theorem placeOf_parent (t : Tree) (parent : p.parent? = some q) :
    t.placeOf q = along (t.start p) (namingParts p.isAbsolute p.parts).dropLast := by
  obtain ⟨absolute, split⟩ := parts_parent parent
  rw [placeOf, start, start, absolute, ← along_namingParts p.isAbsolute (List.dropLast _)]
  rcases split with same | ⟨none, bare⟩
  · rw [same]
  · rw [none, bare]
    rfl

/-- The sibling lies beside the path's place if the path ends in a name, else below it. -/
theorem placeOf_temporary (t : Tree) (p : Path) :
    (∃ here name, t.placeOf p = here ++ [name] ∧
      t.placeOf p.temporary = here ++ [name ++ ".tmp"]) ∨
    t.placeOf p.temporary = t.placeOf p ++ [".tmp"] := by
  rcases temporary_eq p with ⟨name, q, found, parent, sibling⟩ | ⟨-, sibling⟩
  · left
    obtain ⟨front, last, split, named, down, same⟩ := exists_last_of_fileName? found
    refine ⟨along (t.start p) front, name, ?_, ?_⟩
    · rw [placeOf, ← along_namingParts p.isAbsolute, split, along_append, same]
      exact past_of_name named down _
    · rw [sibling, placeOf_div t (plainName_temporary found), placeOf_parent t parent, split,
        List.dropLast_concat]
  · right
    rw [sibling]
    exact placeOf_div t ⟨by decide, by decide, by decide, by decide⟩

theorem placeOf_temporary_ne (t : Tree) (p : Path) : t.placeOf p.temporary ≠ t.placeOf p := by
  rcases placeOf_temporary t p with ⟨here, name, place, sibling⟩ | sibling
  · rw [place, sibling]
    intro same
    have lengths := congrArg String.length (List.cons.inj (List.append_inj' same rfl).2).1
    simp at lengths
  · rw [sibling]
    simp

end Sibling

section Spot

theorem location_of_spot (leads : t.spot p = .ok s) : s.location = t.placeOf p := by
  obtain ⟨-, -, leads⟩ := spot_eq_ok_iff.mp leads
  rw [placeOf, ← along_trimmed]
  rcases spotOf_eq_ok_iff.mp leads with ⟨-, there, walked, rfl⟩ |
    ⟨front, last, here, split, named, walked, -, rfl⟩
  · exact walk_eq_along walked
  · have some : last ≠ [] := getLast?_trimmed (by rw [split, List.getLast?_concat])
    rw [not_or] at named
    rw [split, along_append, ← walk_eq_along walked]
    exact (past_of_name (by simp [silent, some, named.1]) named.2 here).symm

theorem find_eq (leads : t.spot p = .ok s) (leads' : t'.spot p = .ok s)
    (same : t'.get? s.location = t.get? s.location) : t'.find p = t.find p := by
  rw [find, find, leads, leads', ok_bind, ok_bind]
  cases s with
  | directory l => rfl
  | named here name slash =>
    dsimp only
    rw [show t'.get? (here ++ [name]) = t.get? (here ++ [name]) from same]

/-- What a path leads to stays there as long as nothing changes at its place. -/
theorem find_of_keeps (keeps : KeepsDirectories t t')
    (kept : t'.get? (t.placeOf p) = t.get? (t.placeOf p) ∨ t.get? (t.placeOf p) = none)
    {r : Location × Entry} (found : t.find p = .ok r) : t'.find p = .ok r := by
  obtain ⟨s, leads, h⟩ := bind_eq_ok.mp found
  rw [← location_of_spot leads] at kept
  cases s with
  | directory l =>
    rw [find, spot_of_keeps keeps leads]
    exact h
  | named here name slash =>
    rcases kept with same | free
    · rw [find_eq leads (spot_of_keeps keeps leads) same, found]
    · dsimp only at h
      rw [show t.get? (here ++ [name]) = none from free] at h
      cases h

theorem has_of_free {l : Location} (file : t.FileAt p l) (free : t.get? l = none) :
    t.has p = false := by
  obtain ⟨⟨here, name, leads, rfl⟩, -⟩ := file
  rw [has, find, leads, ok_bind]
  dsimp only
  rw [free]
  rfl

theorem FileAt.eq_placeOf {l : Location} (file : t.FileAt p l) : l = t.placeOf p := by
  obtain ⟨⟨here, name, leads, rfl⟩, -⟩ := file
  exact location_of_spot leads

end Spot

section Grounded

/-- Wherever the path goes up, it goes up from a directory that is there. -/
def Grounded (t : Tree) (p : Path) : Prop :=
  ∃ front back here, p.parts = front ++ back ∧ t.walk (t.start p) front = .ok here ∧
    ['.', '.'] ∉ back

theorem Grounded.walk_of_directory (grounded : t.Grounded p) (sound : t.Sound)
    (keeps : KeepsDirectories t t') {parts : List (List Char)} {there : Location}
    (before : parts <+: p.parts) (walked : t'.walk (t.start p) parts = .ok there)
    (directory : t.get? there = some .directory) : t.walk (t.start p) parts = .ok there := by
  obtain ⟨front, back, here, split, reached, down⟩ := grounded
  rw [split] at before
  rcases List.prefix_or_prefix_of_prefix before (List.prefix_append _ _) with inner | ⟨more, rfl⟩
  · obtain ⟨between, first⟩ := exists_walk_of_prefix inner reached
    rw [walk_of_keeps keeps first] at walked
    cases walked
    exact first
  · refine sound.walk_append_of_directory reached (fun up => down ?_) walked directory
    exact ((List.prefix_append_right_inj _).mp before).subset up

/-- Such a path leads to nothing new if its place was left alone. -/
theorem Grounded.has (grounded : t.Grounded p) (sound : t.Sound) (sound' : t'.Sound)
    (keeps : KeepsDirectories t t') (same : t'.get? (t.placeOf p) = t.get? (t.placeOf p))
    (has : t'.has p = true) : t.has p = true := by
  obtain ⟨l, e, found⟩ := find_of_has has
  obtain ⟨s, leads, h⟩ := bind_eq_ok.mp found
  have location : s.location = t.placeOf p := by
    rw [location_of_spot leads, placeOf_congr keeps.workdir]
  rw [← location] at same
  have leads' : t.spot p = .ok s := by
    obtain ⟨fits, named, parted⟩ := spot_eq_ok_iff.mp leads
    rw [spot_eq_ok_iff]
    refine ⟨fits, named, spotOf_eq_ok_iff.mpr ?_⟩
    rw [keeps.start] at parted
    rcases spotOf_eq_ok_iff.mp parted with ⟨dots, there, walked, rfl⟩ |
      ⟨front, last, here, split, other, walked, short, rfl⟩
    · have directory : t'.get? there = some .directory :=
        sound'.directory_of_walk (keeps.start p ▸ sound'.directory_start p) walked
      exact Or.inl ⟨dots, there, grounded.walk_of_directory sound keeps p.trimmed_prefix walked
        (same.symm.trans directory), rfl⟩
    · have there : t.get? (here ++ [String.ofList last]) ≠ none := by
        intro free
        dsimp only at h
        rw [show t'.get? (here ++ [String.ofList last]) = none from same.trans free] at h
        cases h
      have before : front <+: p.parts :=
        (split ▸ List.prefix_append front [last]).trans p.trimmed_prefix
      exact Or.inr ⟨front, last, here, split, other, grounded.walk_of_directory sound keeps before
        walked (sound.above _ _ there), short, rfl⟩
  exact has_of_find (find_eq leads' leads same ▸ found)

/-- What is missing on the way to the parent is strictly above the place of the path. -/
theorem Grounded.before_of_passes (grounded : t.Grounded p) (sound : t.Sound)
    (parent : p.parent? = some q) {m : Location} (passes : q.Passes t.workdir m)
    (free : t.get? m = none) : m <+: t.placeOf p ∧ m ≠ t.placeOf p := by
  obtain ⟨parts, before, rfl⟩ := passes.exists_parts parent
  change t.get? (along (t.start p) parts) = none at free
  change along (t.start p) parts <+: t.placeOf p ∧ along (t.start p) parts ≠ t.placeOf p
  obtain ⟨front, back, here, split, reached, down⟩ := grounded
  -- The parts of the place, and behind them the last part that names something.
  obtain ⟨mid, last, naming⟩ := exists_namingParts_of_parent parent before
  have within : parts ++ (mid ++ [last]) <+: front ++ back := by
    rw [← naming, ← split]
    exact namingParts_prefix_self _ _
  rcases List.prefix_or_prefix_of_prefix ((List.prefix_append _ _).trans within)
    (List.prefix_append front back) with inner | ⟨more, rfl⟩
  · -- The way is there up to the end of the front.
    obtain ⟨there, walked⟩ := exists_walk_of_prefix inner reached
    rw [← walk_eq_along walked, sound.directory_of_walk (sound.directory_start p) walked] at free
    cases free
  · rw [List.append_assoc] at within
    have below := ((List.prefix_append_right_inj _).mp within).subset
    have loud : silent last = false := by
      rcases not_silent_of_namingParts (naming.trans (List.append_assoc _ _ _).symm) with
        named | ⟨none, -⟩
      · exact named
      · rw [List.append_eq_nil_iff] at none
        rw [none.1, along, List.foldl_nil, sound.directory_start] at free
        cases free
    have up : last ≠ ['.', '.'] := by
      rintro rfl
      exact down (below (by simp))
    have place : t.placeOf p =
        along (along (t.start p) (front ++ more)) mid ++ [String.ofList last] := by
      rw [placeOf, ← along_namingParts p.isAbsolute, naming, along_append, along_append]
      exact past_of_name loud up _
    have level : ['.', '.'] ∉ mid := fun dots => down (below (by simp [dots]))
    have ahead := prefix_along level (along (t.start p) (front ++ more))
    rw [place]
    refine ⟨ahead.trans (List.prefix_append _ _), fun same => ?_⟩
    have shorter := ahead.length_le
    have lengths := congrArg List.length same
    simp only [List.length_append, List.length_singleton] at lengths
    omega

end Grounded

end Tree

end PuzzlePrep

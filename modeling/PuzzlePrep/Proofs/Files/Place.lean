import PuzzlePrep.Proofs.Files.Layout

namespace PuzzlePrep

namespace Path

def past (here : Location) (part : List Char) : Location :=
  if silent part then here
  else if part == ['.', '.'] then here.dropLast
  else here ++ [String.ofList part]

def along (here : Location) (parts : List (List Char)) : Location := parts.foldl past here

theorem along_append (here : Location) (front back : List (List Char)) :
    along here (front ++ back) = along (along here front) back := List.foldl_append

theorem past_of_name {part : List Char} (named : silent part = false) (down : part ≠ ['.', '.'])
    (here : Location) : past here part = here ++ [String.ofList part] := by
  simp [past, named, down]

theorem past_of_plainName {name : String} (plain : PlainName name) (here : Location) :
    past here name.toList = here ++ [name] := by
  rw [past_of_name plain.not_silent plain.dots, String.ofList_toList]

theorem prefix_past {part : List Char} (down : part ≠ ['.', '.']) (here : Location) :
    here <+: past here part := by
  cases silent : silent part with
  | true => simp [past, silent]
  | false =>
    rw [past_of_name silent down]
    exact List.prefix_append _ _

theorem prefix_along {parts : List (List Char)} (down : ['.', '.'] ∉ parts) (here : Location) :
    here <+: along here parts := by
  induction parts generalizing here with
  | nil => exact List.prefix_rfl
  | cons part parts ih =>
    rw [List.mem_cons, not_or] at down
    exact (prefix_past (Ne.symm down.1) here).trans (ih down.2 _)

/-- A place that the path comes by, looked up from a working directory. -/
def Passes (p : Path) (workdir place : Location) : Prop :=
  ∃ parts, parts <+: p.parts ∧ place = along (if p.isAbsolute then [] else workdir) parts

section Parent

theorem dropSilent_prefix_self (parts : List (List Char)) : dropSilent parts <+: parts := by
  have suffix := List.dropWhile_suffix (l := parts.reverse) silent
  rw [← List.reverse_prefix, List.reverse_reverse] at suffix
  exact suffix

theorem namingParts_prefix_self (absolute : Bool) (parts : List (List Char)) :
    namingParts absolute parts <+: parts := by
  rw [namingParts.eq_def]
  split
  · exact (List.prefix_cons_inj _).mpr (dropSilent_prefix_self _)
  · exact dropSilent_prefix_self _

theorem slash_not_mem_parts {p : Path} {part : List Char} (member : part ∈ p.parts) :
    '/' ∉ part := by
  rw [parts_eq] at member
  intro slash
  have apart := Text.not_sep_of_mem_pieces member _ slash
  simp at apart

theorem parts_ofParts {absolute : Bool} {parts : List (List Char)} (filled : parts ≠ [])
    (plain : ∀ part ∈ parts, '/' ∉ part) (front : absolute = false → parts.head? ≠ some []) :
    (ofParts absolute parts).parts = parts ∧ (ofParts absolute parts).isAbsolute = absolute := by
  have split := Text.pieces_join filled plain
  cases absolute with
  | true =>
    rw [parts_eq, ofParts, isAbsolute, String.toList_ofList]
    exact ⟨split, rfl⟩
  | false =>
    have relative : (Text.join ['/'] parts).head? ≠ Option.some '/' := by
      intro first
      obtain ⟨rest, text⟩ := List.head?_eq_some_iff.mp first
      rw [text, Text.pieces_cons_sep (by simp)] at split
      rw [← split] at front
      exact front rfl rfl
    rw [parts_eq, ofParts, isAbsolute, String.toList_ofList]
    simp only [Bool.false_eq_true, if_false, unrooted_of_head relative]
    exact ⟨split, by simpa using relative⟩

theorem head?_parts_of_relative {p : Path} (relative : p.isAbsolute = false)
    (named : namingParts false p.parts ≠ []) : p.parts.head? ≠ some [] := by
  have first : p.text.toList.head? ≠ some '/' := by simpa [isAbsolute] using relative
  rw [parts_eq, unrooted_of_head first] at named ⊢
  cases text : p.text.toList with
  | nil =>
    rw [text] at named
    exact absurd rfl named
  | cons c cs =>
    rw [text] at first
    have other : (c == '/') = false := by simpa using first
    obtain ⟨piece, more, split⟩ := List.exists_cons_of_ne_nil (Text.pieces_ne_nil (· == '/') cs)
    have longer : Text.pieces (· == '/') (c :: cs) = (c :: piece) :: more :=
      Text.pieces_cons_of_eq other split
    simp [longer]

/-- A parent has the parts before the last that names something; without any it is the root or the
empty path. -/
theorem parts_parent {p q : Path} (parent : p.parent? = some q) : q.isAbsolute = p.isAbsolute ∧
    (q.parts = namingParts p.isAbsolute (namingParts p.isAbsolute p.parts).dropLast ∨
      namingParts p.isAbsolute (namingParts p.isAbsolute p.parts).dropLast = [] ∧ q.parts = [[]]) := by
  rw [parent?] at parent
  split at parent
  · cases parent
  · rename_i named
    have named : namingParts p.isAbsolute p.parts ≠ [] := by simpa using named
    have within : namingParts p.isAbsolute (namingParts p.isAbsolute p.parts).dropLast <+: p.parts :=
      (namingParts_prefix_self _ _).trans ((List.dropLast_prefix _).trans (namingParts_prefix_self _ _))
    cases parent
    by_cases none : namingParts p.isAbsolute (namingParts p.isAbsolute p.parts).dropLast = []
    · rw [none]
      cases p.isAbsolute <;> exact ⟨rfl, Or.inr ⟨rfl, rfl⟩⟩
    · have front : p.isAbsolute = false →
          (namingParts p.isAbsolute (namingParts p.isAbsolute p.parts).dropLast).head? ≠
            some [] := by
        intro relative first
        rw [relative] at named
        apply head?_parts_of_relative relative named
        obtain ⟨more, split⟩ := within
        rw [← split, List.head?_append, first, Option.some_or]
      obtain ⟨same, sameStart⟩ := parts_ofParts none
        (fun part member => slash_not_mem_parts (within.subset member)) front
      exact ⟨sameStart, Or.inl same⟩

theorem Passes.exists_parts {p q : Path} {workdir place : Location} (parent : p.parent? = some q)
    (passes : q.Passes workdir place) : ∃ parts,
      parts <+: (namingParts p.isAbsolute p.parts).dropLast ∧
        place = along (if p.isAbsolute then [] else workdir) parts := by
  obtain ⟨start, split⟩ := parts_parent parent
  obtain ⟨parts, before, rfl⟩ := passes
  rw [start]
  rcases split with same | ⟨-, bare⟩
  · rw [same] at before
    exact ⟨parts, before.trans (namingParts_prefix_self _ _), rfl⟩
  · rw [bare] at before
    have empty : parts = [] ∨ parts = [[]] := by
      simpa [List.prefix_cons_iff, List.prefix_nil] using before
    refine ⟨[], List.nil_prefix, ?_⟩
    rcases empty with rfl | rfl <;> rfl

theorem exists_namingParts_of_parent {p q : Path} {parts : List (List Char)}
    (parent : p.parent? = some q) (before : parts <+: (namingParts p.isAbsolute p.parts).dropLast) :
    ∃ mid last, namingParts p.isAbsolute p.parts = parts ++ (mid ++ [last]) := by
  rcases List.eq_nil_or_concat (namingParts p.isAbsolute p.parts) with bare | ⟨init, last, named⟩
  · rw [parent?, bare] at parent
    cases parent
  · rw [List.concat_eq_append] at named
    rw [named, List.dropLast_concat] at before
    obtain ⟨mid, rfl⟩ := before
    exact ⟨mid, last, named.trans (List.append_assoc _ _ _)⟩

theorem Passes.of_parent {p q : Path} {workdir place : Location} (parent : p.parent? = some q)
    (passes : q.Passes workdir place) : p.Passes workdir place := by
  obtain ⟨parts, before, same⟩ := passes.exists_parts parent
  exact ⟨parts, before.trans ((List.dropLast_prefix _).trans (namingParts_prefix_self _ _)), same⟩

end Parent

end Path

namespace Tree

open PuzzlePrep.Path

variable {t t' : Tree} {l : Layout} {p : Partition}

theorem walk_eq_along {here there : Location} {parts : List (List Char)}
    (h : t.walk here parts = .ok there) : there = along here parts := by
  induction parts generalizing here with
  | nil => exact (Except.ok.inj h).symm
  | cons part parts ih =>
    rw [walk, List.foldlM_cons] at h
    obtain ⟨next, entered, walked⟩ := bind_eq_ok.mp h
    have step : next = past here part := by
      rcases enter_eq_ok_iff.mp entered with ⟨silent, rfl⟩ | ⟨silent, rfl, rfl⟩ | ⟨silent, down, -, rfl⟩
      · simp [past, silent]
      · simp [past, silent]
      · rw [past_of_name silent down]
    rw [ih walked, step]
    rfl

def place (t : Tree) (l : Layout) : Location := along (t.start l.root) l.root.above

def inside (t : Tree) (l : Layout) (p : Partition) (name : String) : Location :=
  t.place l ++ [p.name, name]

theorem place_congr (same : t'.workdir = t.workdir) (l : Layout) : t'.place l = t.place l := by
  rw [place, place, start, start, same]

theorem inside_congr (same : t'.workdir = t.workdir) (l : Layout) (p : Partition) (name : String) :
    t'.inside l p name = t.inside l p name := by
  rw [inside, inside, place_congr same]

theorem rootOf_eq_place {root : Location} (h : t.rootOf l = .ok root) : root = t.place l :=
  walk_eq_along h

theorem fileAt_eq_inside {name : String} (plain : PlainName name) {m : Location}
    (h : t.FileAt (l.directory p / name) m) : m = t.inside l p name := by
  obtain ⟨-, root, found, -, rfl⟩ := fileAt_inside plain h
  rw [rootOf_eq_place found]
  rfl

theorem find_eq_inside {name : String} (plain : PlainName name) {m : Location} {e : Entry}
    (h : t.find (l.directory p / name) = .ok (m, e)) :
    m = t.inside l p name ∧ t.get? m = some e ∧
      t.spot (l.directory p / name) = .ok (.named (t.place l ++ [p.name]) name false) := by
  obtain ⟨spot, leads, found⟩ := bind_eq_ok.mp h
  obtain ⟨-, -, root, rooted, -, rfl⟩ := (spot_inside_eq_ok_iff plain).mp leads
  rw [rootOf_eq_place rooted] at leads found
  have place : t.place l ++ [p.name] ++ [name] = t.inside l p name := by simp [inside]
  dsimp only at found
  rw [place] at found
  split at found
  · cases found
  · rename_i there
    cases found
    exact ⟨rfl, there, leads⟩
  · rename_i there
    cases found
    exact ⟨rfl, there, leads⟩

theorem find_eq_ok_of_spot {q : Path} {here : Location} {name : String} {e : Entry}
    (leads : t.spot q = .ok (.named here name false)) (there : t.get? (here ++ [name]) = some e) :
    t.find q = .ok (here ++ [name], e) := by
  rw [find]
  refine bind_eq_ok.mpr ⟨_, leads, ?_⟩
  dsimp only
  rw [there]
  cases e <;> rfl

theorem find_inside_of_keeps {name : String} (plain : PlainName name) {m : Location} {e : Entry}
    (keeps : KeepsDirectories t t') (same : t'.get? m = t.get? m)
    (h : t.find (l.directory p / name) = .ok (m, e)) :
    t'.find (l.directory p / name) = .ok (m, e) := by
  obtain ⟨rfl, there, leads⟩ := find_eq_inside plain h
  have place : t.place l ++ [p.name] ++ [name] = t.inside l p name := by simp [inside]
  rw [← place] at same there ⊢
  exact find_eq_ok_of_spot (spot_of_keeps keeps leads) (same.trans there)

section Sound

/-- Every entry lies in a directory, and the working directory is one. -/
structure Sound (t : Tree) : Prop where
  above : ∀ here name, t.get? (here ++ [name]) ≠ none → t.get? here = some .directory
  workdir : t.get? t.workdir = some .directory

theorem sound_iff : t.Sound ↔
    (∀ e ∈ t.entries, (t.get? e.1.dropLast).any Entry.isDirectory = true) ∧
      (t.get? t.workdir).any Entry.isDirectory = true := by
  have directory (m : Location) :
      (t.get? m).any Entry.isDirectory = true ↔ t.get? m = some .directory := by
    rcases t.get? m with _ | _ | _ <;> simp [Entry.isDirectory]
  simp only [directory]
  constructor
  · refine fun sound => ⟨fun e member => ?_, sound.workdir⟩
    rcases List.eq_nil_or_concat e.1 with root | ⟨here, name, named⟩
    · rw [root]
      rfl
    · rw [List.concat_eq_append] at named
      rw [named, List.dropLast_concat]
      apply sound.above here name
      rw [get?, if_neg (by simp), ← named, ne_eq, List.lookup_eq_none_iff]
      intro free
      simpa using free e member
  · rintro ⟨all, workdir⟩
    refine ⟨fun here name there => ?_, workdir⟩
    rw [get?, if_neg (by simp), ne_eq, List.lookup_eq_none_iff] at there
    rw [Classical.not_forall] at there
    obtain ⟨e, differs⟩ := there
    obtain ⟨member, same⟩ : e ∈ t.entries ∧ here ++ [name] = e.1 := by simpa using differs
    have parent := all e member
    rwa [← same, List.dropLast_concat] at parent

instance (t : Tree) : Decidable t.Sound := decidable_of_iff _ sound_iff.symm

theorem Sound.of_keeps (sound : t.Sound) (keeps : KeepsDirectories t t')
    (new : ∀ here name, t.get? (here ++ [name]) = none → t'.get? (here ++ [name]) ≠ none →
      t'.get? here = some .directory) : t'.Sound := by
  constructor
  · intro here name there
    by_cases old : t.get? (here ++ [name]) = none
    · exact new here name old there
    · exact keeps.directory _ (sound.above here name old)
  · rw [keeps.workdir]
    exact keeps.directory _ sound.workdir

theorem Sound.directory_of_prefix (sound : t.Sound) {m n : Location} (before : m <+: n)
    (directory : t.get? n = some .directory) : t.get? m = some .directory := by
  obtain ⟨rest, rfl⟩ := before
  induction rest generalizing m with
  | nil => simpa using directory
  | cons name rest ih =>
    rw [List.append_cons] at directory
    apply sound.above m name
    rw [ih directory]
    simp

theorem Sound.directory_of_walk (sound : t.Sound) {here there : Location} {parts : List (List Char)}
    (directory : t.get? here = some .directory) (h : t.walk here parts = .ok there) :
    t.get? there = some .directory := by
  induction parts generalizing here with
  | nil =>
    cases h
    exact directory
  | cons part parts ih =>
    rw [walk, List.foldlM_cons] at h
    obtain ⟨next, entered, walked⟩ := bind_eq_ok.mp h
    refine ih ?_ walked
    rcases enter_eq_ok_iff.mp entered with ⟨-, rfl⟩ | ⟨-, -, rfl⟩ | ⟨-, -, looked, rfl⟩
    · exact directory
    · exact sound.directory_of_prefix (List.dropLast_prefix _) directory
    · exact (look_eq_ok_iff.mp looked).2

theorem Sound.directory_start (sound : t.Sound) (q : Path) :
    t.get? (t.start q) = some .directory := by
  rw [start]
  split
  · rfl
  · exact sound.workdir

end Sound

section Settled

/-- Wherever the path of the root goes up, it goes up from a directory that is there. -/
def Settled (t : Tree) (l : Layout) : Prop :=
  ∃ front back here, l.root.above = front ++ back ∧ t.walk (t.start l.root) front = .ok here ∧
    ['.', '.'] ∉ back

theorem Settled.of_keeps (settled : t.Settled l) (keeps : KeepsDirectories t t') :
    t'.Settled l := by
  obtain ⟨front, back, here, split, walked, down⟩ := settled
  exact ⟨front, back, here, split, (keeps.start l.root).symm ▸ walk_of_keeps keeps walked, down⟩

theorem Sound.walk_of_directory (sound : t.Sound) {here there : Location}
    {parts : List (List Char)} (down : ['.', '.'] ∉ parts) (walked : t'.walk here parts = .ok there)
    (directory : t.get? there = some .directory) : t.walk here parts = .ok there := by
  induction parts generalizing here with
  | nil => exact walked
  | cons part parts ih =>
    rw [List.mem_cons, not_or] at down
    rw [walk, List.foldlM_cons] at walked ⊢
    obtain ⟨next, entered, walked⟩ := bind_eq_ok.mp walked
    refine bind_eq_ok.mpr ⟨next, ?_, ih down.2 walked⟩
    have ahead : next <+: there := by
      rw [walk_eq_along walked]
      exact prefix_along down.2 next
    have reached := sound.directory_of_prefix ahead directory
    rw [enter_eq_ok_iff] at entered ⊢
    rcases entered with stays | ⟨-, up, -⟩ | ⟨named, other, looked, rfl⟩
    · exact Or.inl stays
    · exact absurd up.symm down.1
    · -- The later walk is needed for this alone: no name on the way is too long.
      obtain ⟨short, -⟩ := look_eq_ok_iff.mp looked
      exact Or.inr (Or.inr ⟨named, other, look_eq_ok_iff.mpr ⟨short, reached⟩, rfl⟩)

/-- What can be followed in one tree can be followed in another with a directory where it ends, as long
as the parts that go up can. -/
theorem Sound.walk_append_of_directory (sound : t.Sound) {begin here there : Location}
    {front back : List (List Char)} (reached : t.walk begin front = .ok here)
    (down : ['.', '.'] ∉ back) (walked : t'.walk begin (front ++ back) = .ok there)
    (directory : t.get? there = some .directory) : t.walk begin (front ++ back) = .ok there := by
  rw [walk_append] at walked
  obtain ⟨between, first, rest⟩ := bind_eq_ok.mp walked
  rw [walk_eq_along first, ← walk_eq_along reached] at rest
  rw [walk_append, reached, ok_bind]
  exact sound.walk_of_directory down rest directory

theorem rootOf_of_directory (sound : t.Sound) (settled : t.Settled l)
    (same : t'.workdir = t.workdir) {root : Location} (rooted : t'.rootOf l = .ok root)
    (directory : t.get? root = some .directory) : t.rootOf l = .ok root := by
  obtain ⟨front, back, here, split, reached, down⟩ := settled
  rw [rootOf, split, start, same, ← start] at rooted
  rw [rootOf, split]
  exact sound.walk_append_of_directory reached down rooted directory

theorem find_inside_of_entry (sound : t.Sound) (settled : t.Settled l)
    (same : t'.workdir = t.workdir) {name : String} (plain : PlainName name) {r : Location × Entry}
    (h : t'.find (l.directory p / name) = .ok r) {e : Entry}
    (there : t.get? (t.inside l p name) = some e) :
    t.find (l.directory p / name) = .ok (t.inside l p name, e) := by
  obtain ⟨m, e'⟩ := r
  obtain ⟨-, -, leads⟩ := find_eq_inside plain h
  obtain ⟨fits, short, root, rooted, looked, -⟩ := (spot_inside_eq_ok_iff plain).mp leads
  obtain ⟨shortName, -⟩ := look_eq_ok_iff.mp looked
  have place : root = t.place l := (rootOf_eq_place rooted).trans (place_congr same l)
  subst place
  have split : t.inside l p name = t.place l ++ [p.name] ++ [name] := by simp [inside]
  rw [split] at there ⊢
  have directory : t.get? (t.place l ++ [p.name]) = some .directory :=
    sound.above _ name (there ▸ nofun)
  have root : t.get? (t.place l) = some .directory := sound.above _ p.name (directory ▸ nofun)
  refine find_eq_ok_of_spot ((spot_inside_eq_ok_iff plain).mpr ⟨fits, short, t.place l, ?_,
    look_eq_ok_iff.mpr ⟨shortName, directory⟩, rfl⟩) there
  exact rootOf_of_directory sound settled same rooted root

theorem has_of_find {q : Path} {r : Location × Entry} (h : t.find q = .ok r) : t.has q = true := by
  rw [has, h]
  rfl

theorem find_of_has {q : Path} (h : t.has q = true) : ∃ m e, t.find q = .ok (m, e) := by
  rw [has] at h
  cases found : t.find q with
  | error f =>
    rw [found] at h
    cases h
  | ok r => exact ⟨r.1, r.2, rfl⟩

variable {s : Split}

theorem has_file_congr (sound : t.Sound) (settled : t.Settled l) (keeps : KeepsDirectories t t')
    (same : t'.get? (t.inside l p s.fileName) = t.get? (t.inside l p s.fileName)) :
    t'.has (l.file p s) = t.has (l.file p s) := by
  rw [Bool.eq_iff_iff]
  constructor
  · intro has
    obtain ⟨m, e, found⟩ := find_of_has has
    obtain ⟨rfl, there, -⟩ := find_eq_inside s.plainName found
    rw [inside_congr keeps.workdir, same] at there
    exact has_of_find (find_inside_of_entry sound settled keeps.workdir s.plainName found there)
  · intro has
    obtain ⟨m, e, found⟩ := find_of_has has
    obtain ⟨rfl, -, -⟩ := find_eq_inside s.plainName found
    exact has_of_find (find_inside_of_keeps s.plainName keeps same found)

theorem find_file_of_keeps (keeps : KeepsDirectories t t')
    (same : t'.get? (t.inside l p s.fileName) = t.get? (t.inside l p s.fileName))
    (has : t.has (l.file p s) = true) : t'.find (l.file p s) = t.find (l.file p s) := by
  obtain ⟨m, e, found⟩ := find_of_has has
  obtain ⟨rfl, -, -⟩ := find_eq_inside s.plainName found
  rw [found]
  exact find_inside_of_keeps s.plainName keeps same found

theorem find_file_congr_of_place (sound : t.Sound) (settled : t.Settled l)
    (keeps : KeepsDirectories t t')
    (same : t'.get? (t.inside l p s.fileName) = t.get? (t.inside l p s.fileName)) :
    (t'.find (l.file p s)).toOption = (t.find (l.file p s)).toOption := by
  cases has : t.has (l.file p s) with
  | true => rw [find_file_of_keeps keeps same has]
  | false =>
    have has' := (has_file_congr sound settled keeps same).trans has
    rw [Tree.has] at has has'
    rcases found : t.find (l.file p s) with f | r
    · rcases found' : t'.find (l.file p s) with f' | r'
      · rfl
      · rw [found'] at has'
        cases has'
    · rw [found] at has
      cases has

end Settled

end Tree

end PuzzlePrep

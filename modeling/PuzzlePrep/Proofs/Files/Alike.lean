import PuzzlePrep.Proofs.Files.Apart
import PuzzlePrep.Proofs.Table.File

namespace PuzzlePrep

open PuzzlePrep.Path

def Entry.content? : Entry → Option Content
  | .directory => none
  | .file content _ => some content

namespace Tree

structure Alike (t t' : Tree) : Prop where
  workdir : t'.workdir = t.workdir
  get? : ∀ m, (t'.get? m).map Entry.content? = (t.get? m).map Entry.content?

variable {t t' t'' : Tree} {q : Path} {l : Layout} {p : Partition} {s : Split} {content : Content}

theorem Alike.refl (t : Tree) : t.Alike t := ⟨rfl, fun _ => rfl⟩

theorem Alike.trans (first : t.Alike t') (second : t'.Alike t'') : t.Alike t'' :=
  ⟨second.workdir.trans first.workdir, fun m => (second.get? m).trans (first.get? m)⟩

theorem Alike.cases (h : t.Alike t') (m : Location) :
    (t.get? m = none ∧ t'.get? m = none) ∨
      (t.get? m = some .directory ∧ t'.get? m = some .directory) ∨
      ∃ content executable executable', t.get? m = some (.file content executable) ∧
        t'.get? m = some (.file content executable') := by
  have same := h.get? m
  rcases here : t.get? m with _ | _ | ⟨content, executable⟩ <;>
    rcases there : t'.get? m with _ | _ | ⟨content', executable'⟩ <;>
    simp_all [Entry.content?]

theorem Alike.enter (h : t.Alike t') (here : Location) (part : List Char) :
    t'.enter here part = t.enter here part := by
  simp only [Tree.enter, look]
  rcases h.cases (here ++ [String.ofList part]) with ⟨free, free'⟩ | ⟨directory, directory'⟩ |
    ⟨content, executable, executable', file, file'⟩
  · rw [free, free']
  · rw [directory, directory']
  · rw [file, file']
    by_cases long : nameLimit < (String.ofList part).utf8ByteSize <;> simp only [long, if_true, if_false]

theorem Alike.walk (h : t.Alike t') (here : Location) (parts : List (List Char)) :
    t'.walk here parts = t.walk here parts := by
  have same : t'.enter = t.enter := by
    funext here part
    exact h.enter here part
  rw [Tree.walk, Tree.walk, same]

theorem Alike.spot (h : t.Alike t') (q : Path) : t'.spot q = t.spot q := by
  have same (start : Location) (slash : Bool) (parts : List (List Char)) :
      t'.spotOf start slash parts = t.spotOf start slash parts := by
    rw [spotOf, spotOf]
    simp only [h.walk, h.enter]
  rw [Tree.spot, Tree.spot, h.workdir]
  simp only [same]

theorem Alike.find (h : t.Alike t') (q : Path) :
    (t'.find q).map (fun r => (r.1, r.2.content?)) =
      (t.find q).map fun r => (r.1, r.2.content?) := by
  rw [Tree.find, Tree.find, h.spot]
  rcases t.spot q with f | m | ⟨here, name, slash⟩
  · rfl
  · rfl
  · simp only [ok_bind]
    rcases h.cases (here ++ [name]) with ⟨free, free'⟩ | ⟨directory, directory'⟩ |
      ⟨content, executable, executable', file, file'⟩
    · rw [free, free']
    · rw [directory, directory']
    · rw [file, file']
      dsimp only
      split <;> rfl

theorem Alike.has (h : t.Alike t') (q : Path) : t'.has q = t.has q := by
  have same := congrArg Except.isOk (h.find q)
  rw [Tree.has, Tree.has]
  cases found : t.find q <;> cases found' : t'.find q <;> rw [found, found'] at same <;> exact same

theorem Alike.hasDirectory (h : t.Alike t') (q : Path) : t'.hasDirectory q = t.hasDirectory q := by
  have same := h.find q
  rw [Tree.hasDirectory, Tree.hasDirectory]
  rcases found : t.find q with f | ⟨m, _ | _⟩ <;> rcases found' : t'.find q with f' | ⟨m', _ | _⟩ <;>
    simp_all [Except.map, Entry.content?]

theorem Alike.written (h : t.Alike t') (q : Path) : t'.written q = t.written q := by
  have same := h.find q
  rw [Tree.written, Tree.written]
  rcases found : t.find q with f | ⟨m, _ | _⟩ <;> rcases found' : t'.find q with f' | ⟨m', _ | _⟩ <;>
    simp_all [Except.map, Entry.content?]

theorem Alike.table (h : t.Alike t') (q : Path) : t'.table q = t.table q := by
  rw [Tree.table, Tree.table, h.written]

theorem Alike.fileAt (h : t.Alike t') {m : Location} (file : t.FileAt q m) : t'.FileAt q m := by
  obtain ⟨⟨here, name, leads, same⟩, free⟩ := file
  refine ⟨⟨here, name, (h.spot q).trans leads, same⟩, ?_⟩
  rcases h.cases m with ⟨-, free'⟩ | ⟨directory, -⟩ | ⟨_, _, _, -, file'⟩
  · simp [free']
  · exact absurd directory free
  · simp [file']

section Holds

/-- The file of a split holds a content, and nothing is left beside it. -/
structure Holds (t : Tree) (l : Layout) (p : Partition) (s : Split) (content : Content) : Prop where
  sibling : t.FileAt (l.file p s).temporary (t.inside l p (s.fileName ++ ".tmp"))
  target : t.FileAt (l.file p s) (t.inside l p s.fileName)
  filled : ∃ executable, t.get? (t.inside l p s.fileName) = some (.file content executable)
  gone : t.get? (t.inside l p (s.fileName ++ ".tmp")) = none

theorem Holds.find (h : t.Holds l p s content) : ∃ executable,
    t.find (l.file p s) = .ok (t.inside l p s.fileName, .file content executable) := by
  obtain ⟨executable, filled⟩ := h.filled
  exact ⟨executable, find_eq_file_iff.mpr ⟨h.target, filled⟩⟩

theorem Holds.of_writeAtomically {write : Except Failure Content}
    (h : (Disk.writeAtomically (l.file p s) write).on t = (.ok (), t')) :
    ∃ content, write = .ok content ∧ t'.Holds l p s content := by
  obtain ⟨content, origin, goal, given, written⟩ := Disk.written_of_writeAtomically h
  have sibling := written.sibling
  have target := written.target
  rw [temporary_file] at sibling
  obtain rfl := fileAt_eq_inside s.plainName_temporary sibling
  obtain rfl := fileAt_eq_inside s.plainName target
  rw [← temporary_file] at sibling
  obtain ⟨executable, found⟩ := written.find
  refine ⟨content, given, sibling, target, ⟨executable, (find_eq_file_iff.mp found).2⟩, ?_⟩
  apply written.gone
  intro same
  exact s.temporary_ne s (inside_inj.mp same).2

theorem Holds.of_keeps (h : t.Holds l p s content) (keeps : KeepsDirectories t t')
    (file : t'.get? (t.inside l p s.fileName) = t.get? (t.inside l p s.fileName))
    (tmp : t'.get? (t.inside l p (s.fileName ++ ".tmp")) =
      t.get? (t.inside l p (s.fileName ++ ".tmp"))) : t'.Holds l p s content := by
  obtain ⟨executable, filled⟩ := h.filled
  have place := inside_congr keeps.workdir l p
  constructor
  · rw [place]
    refine h.sibling.of_keeps keeps ?_
    simp [tmp, h.gone]
  · rw [place]
    refine h.target.of_keeps keeps ?_
    simp [file, filled]
  · rw [place, file]
    exact ⟨executable, filled⟩
  · rw [place, tmp]
    exact h.gone

theorem Holds.of_alike (h : t.Holds l p s content) (alike : t.Alike t') :
    t'.Holds l p s content := by
  have place := inside_congr alike.workdir l p
  obtain ⟨executable, filled⟩ := h.filled
  refine ⟨?_, ?_, ?_, ?_⟩
  · rw [place]
    exact alike.fileAt h.sibling
  · rw [place]
    exact alike.fileAt h.target
  · rw [place]
    rcases alike.cases (t.inside l p s.fileName) with ⟨free, -⟩ | ⟨directory, -⟩ |
      ⟨content', executable, executable', file, file'⟩
    · rw [filled] at free
      cases free
    · rw [filled] at directory
      cases directory
    · rw [filled] at file
      cases file
      exact ⟨executable', file'⟩
  · rw [place]
    have same := alike.get? (t.inside l p (s.fileName ++ ".tmp"))
    rw [h.gone] at same
    exact Option.map_eq_none_iff.mp same

theorem hasDirectory_of_fileAt {name : String} (plain : PlainName name) {m : Location}
    (h : t.FileAt (l.directory p / name) m) : t.hasDirectory (l.directory p) = true := by
  obtain ⟨fits, root, rooted, looked, -⟩ := fileAt_inside plain h
  obtain ⟨short, directory⟩ := look_eq_ok_iff.mp looked
  have leads := spot_directory_eq_ok_iff.mpr ⟨fits.of_div plain, root, rooted, short, rfl⟩
  exact (hasDirectory_iff leads).mpr directory

theorem Holds.hasDirectory (h : t.Holds l p s content) : t.hasDirectory (l.directory p) = true :=
  hasDirectory_of_fileAt s.plainName h.target

theorem alike_of_replaced {origin goal : Location} {executable : Bool} (apart : origin ≠ goal)
    (filled : t.get? goal = some (.file content executable)) (gone : t.get? origin = none)
    (h : Replaced t t' origin goal content) : t.Alike t' := by
  obtain ⟨executable', filled'⟩ := h.filled
  refine ⟨h.workdir, fun m => ?_⟩
  by_cases atGoal : m = goal
  · rw [atGoal, filled, filled']
    rfl
  · by_cases atOrigin : m = origin
    · rw [atOrigin, gone, h.gone apart]
    · rw [h.other m atOrigin atGoal]

theorem Holds.write_again (h : t.Holds l p s content) :
    ∃ t', (Disk.writeAtomically (l.file p s) (.ok content)).on t = (.ok (), t') ∧ t.Alike t' := by
  obtain ⟨executable, filled⟩ := h.filled
  have made := Disk.makeDirectories_of_hasDirectory h.hasDirectory
  have ran := Disk.replace_on_ok.mpr ⟨content, _, _, rfl, h.sibling, h.target, rfl⟩
  refine ⟨_, Disk.writeAtomically_on_ok.mpr ⟨t, ?_, ran⟩, ?_⟩
  · rw [parent?_file]
    exact made
  · refine alike_of_replaced ?_ filled h.gone
      (replaced_put_drop_put _ h.sibling.ne_nil h.target.ne_nil)
    intro same
    exact s.temporary_ne s (inside_inj.mp same).2

end Holds

end Tree

namespace Disk

open PuzzlePrep.Tree

theorem sibling_of_failed {t t' : Tree} {l : Layout} {p : Partition} {s : Split} {m : Location}
    {write : Except Failure Content} {f : Failure} {content : Content} {executable : Bool}
    (sound : t.Sound) (settled : t.Settled l)
    (h : (writeAtomically (l.file p s) write).on t = (.error f, t'))
    (found : t'.find (l.file p s).temporary = .ok (m, .file content executable)) :
    t.find (l.file p s).temporary = .ok (m, .file content executable) := by
  rw [writeAtomically_file, on_bind] at h
  have first := confined_makeDirectories (l.directory p) t
  rcases made : (makeDirectories (l.directory p)).on t with ⟨g | u, between⟩
  · -- Not even the directory could be made, so that the file is an old one.
    rw [made] at first h
    cases h
    rw [temporary_file] at found ⊢
    obtain ⟨rfl, there, -⟩ := find_eq_inside s.plainName_temporary found
    rw [first.file_iff id, inside_congr first.keeps.workdir] at there
    rw [inside_congr first.keeps.workdir]
    exact find_inside_of_entry sound settled first.keeps.workdir s.plainName_temporary found there
  · rw [made] at h
    have gone := (replace_on_error h).1
    rw [hasFile, found] at gone
    cases gone

end Disk

end PuzzlePrep

import PuzzlePrep.Layout
import PuzzlePrep.Proofs.Files.Atomic
import PuzzlePrep.Proofs.Files.Path

namespace PuzzlePrep

open PuzzlePrep.Path PuzzlePrep.Tree

/-- One plain segment, for paths with either kind of slash. -/
theorem Partition.isSegment_iff {name : String} : isSegment name = true ↔
    name ≠ "" ∧ '/' ∉ name.toList ∧ '\\' ∉ name.toList ∧ name ≠ "." ∧ name ≠ ".." := by
  simp only [isSegment, Bool.and_eq_true, bne_iff_ne, Bool.not_eq_true', List.contains_eq_mem,
    decide_eq_false_iff_not]
  exact ⟨fun ⟨⟨⟨⟨named, dot⟩, dots⟩, slash⟩, other⟩ => ⟨named, slash, other, dot, dots⟩,
    fun ⟨named, slash, other, dot, dots⟩ => ⟨⟨⟨⟨named, dot⟩, dots⟩, slash⟩, other⟩⟩

theorem Partition.ofName_eq_ok_iff {name : String} {p : Partition} :
    ofName name = .ok p ↔ p.name = name := by
  constructor
  · intro h
    rw [ofName] at h
    split at h
    · cases h
      rfl
    · split at h <;> cases h
  · rintro rfl
    exact p.ofName_name

theorem Partition.exists_ofName_iff {name : String} :
    (∃ p, ofName name = .ok p) ↔ isSegment name = true := by
  simp only [ofName_eq_ok_iff]
  exact ⟨fun ⟨p, same⟩ => same ▸ p.segment, fun segment => ⟨⟨name, segment⟩, rfl⟩⟩

theorem Partition.plainName (p : Partition) : PlainName p.name := by
  obtain ⟨named, slash, -, dot, dots⟩ := isSegment_iff.mp p.segment
  simp only [ne_eq, ← String.toList_inj] at named dot dots
  exact ⟨named, dot, dots, slash⟩

theorem Split.plainName (s : Split) : PlainName s.fileName := by
  cases s <;> exact ⟨by decide, by decide, by decide, by decide⟩

theorem Split.plainName_temporary (s : Split) : PlainName (s.fileName ++ ".tmp") := by
  cases s <;> exact ⟨by decide, by decide, by decide, by decide⟩

namespace Tree

def rootOf (t : Tree) (l : Layout) : Except Fault Location := t.walk (t.start l.root) l.root.above

variable {t t' : Tree}

theorem text_div_ne_empty {base : Path} {name : String} (plain : PlainName name) :
    (base / name).text ≠ "" := by
  intro empty
  exact toList_div_ne_nil plain (by rw [empty]; rfl)

theorem trimmed_div {base : Path} {name : String} (plain : PlainName name) :
    (base / name).trimmed = base.above ++ [name.toList] := by
  simp [trimmed, parts_div plain, plain.named]

theorem start_div {base : Path} {name : String} (plain : PlainName name) (t : Tree) :
    t.start (base / name) = t.start base := by
  rw [start, isAbsolute_div plain, start]

theorem spotOf_div {base : Path} {name : String} (plain : PlainName name) (t : Tree) :
    t.spotOf (t.start (base / name)) ((base / name).trimmed.length < (base / name).parts.length)
        (base / name).trimmed =
      t.walk (t.start base) base.above >>= fun here =>
        if nameLimit < name.utf8ByteSize then .error .nameTooLong else .ok (.named here name false) := by
  have other : ¬ (name.toList = ['.'] ∨ name.toList = ['.', '.']) :=
    not_or.mpr ⟨plain.dot, plain.dots⟩
  rw [trimmed_div plain, parts_div plain, start_div plain, spotOf_of_name other]
  simp

theorem spot_div {base : Path} {name : String} (plain : PlainName name) :
    t.spot (base / name) =
      if (base / name).text.toList.contains '\x00' then .error .nulInPath
      else if pathLimit < (base / name).text.utf8ByteSize then .error .nameTooLong
      else t.walk (t.start base) base.above >>= fun here =>
        if nameLimit < name.utf8ByteSize then .error .nameTooLong else .ok (.named here name false) := by
  rw [spot, if_neg (text_div_ne_empty plain), ← spotOf_div plain]
  rfl

theorem spot_div_eq_ok_iff {base : Path} {name : String} (plain : PlainName name) {s : Spot} :
    t.spot (base / name) = .ok s ↔ Fits (base / name) ∧ ∃ here,
      t.walk (t.start base) base.above = .ok here ∧ name.utf8ByteSize ≤ nameLimit ∧
      s = .named here name false := by
  rw [spot_eq_ok_iff, spotOf_div plain, bind_eq_ok, and_iff_right (text_div_ne_empty plain)]
  refine and_congr_right fun _ => exists_congr fun here => and_congr_right fun _ => ?_
  by_cases long : nameLimit < name.utf8ByteSize
  · have exceeds : ¬ name.utf8ByteSize ≤ nameLimit := by omega
    simp [long, exceeds]
  · have short : name.utf8ByteSize ≤ nameLimit := by omega
    simp [long, short, eq_comm]

theorem walk_div (base : Path) {dir : String} (plain : PlainName dir) (here : Location) :
    t.walk here (base / dir).above =
      t.walk here base.above >>= fun there => t.enter there dir.toList := by
  rw [above_div plain, walk_concat]

theorem enter_plain_eq_ok_iff {name : String} (plain : PlainName name) {here there : Location} :
    t.enter here name.toList = .ok there ↔
      t.look here name = .ok (some .directory) ∧ there = here ++ [name] := by
  rw [enter_eq_ok_iff, plain.not_silent, String.ofList_toList]
  simp [plain.dots]

theorem Fits.of_div {base : Path} {name : String} (plain : PlainName name)
    (fits : Fits (base / name)) : Fits base := by
  obtain ⟨more, split⟩ : ∃ more, (base / name).text.toList = base.text.toList ++ more := by
    rw [toList_div plain]
    split <;> exact ⟨_, rfl⟩
  have whole : (base / name).text = base.text ++ String.ofList more := by
    rw [← String.toList_inj, split]
    simp
  obtain ⟨noNul, short⟩ := fits
  constructor
  · rw [split] at noNul
    simp only [List.contains_eq_mem, List.mem_append, decide_eq_false_iff_not, not_or] at noNul ⊢
    exact noNul.1
  · rw [whole, String.utf8ByteSize_append] at short
    omega

section File

variable {l : Layout} {p : Partition} {s : Split} {root : Location}

theorem directory_named (l : Layout) (p : Partition) : (l.directory p).text ≠ "" := by
  intro empty
  have none : (l.root / p.name).text.toList = [] := congrArg String.toList empty
  exact toList_div_ne_nil p.plainName none

theorem spot_directory_eq_ok_iff {spot : Spot} : t.spot (l.directory p) = .ok spot ↔
    Fits (l.directory p) ∧ ∃ root, t.rootOf l = .ok root ∧ p.name.utf8ByteSize ≤ nameLimit ∧
      spot = .named root p.name false := spot_div_eq_ok_iff p.plainName

theorem start_directory (t : Tree) (l : Layout) (p : Partition) :
    t.start (l.directory p) = t.start l.root := start_div p.plainName t

theorem spot_inside_eq_ok_iff {name : String} (plain : PlainName name) {spot : Spot} :
    t.spot (l.directory p / name) = .ok spot ↔
      Fits (l.directory p / name) ∧ name.utf8ByteSize ≤ nameLimit ∧ ∃ root, t.rootOf l = .ok root ∧
        t.look root p.name = .ok (some .directory) ∧
        spot = .named (root ++ [p.name]) name false := by
  rw [spot_div_eq_ok_iff plain, start_directory, Layout.directory, walk_div _ p.plainName]
  refine and_congr_right fun _ => ?_
  constructor
  · rintro ⟨here, walked, short, rfl⟩
    obtain ⟨root, found, entered⟩ := bind_eq_ok.mp walked
    obtain ⟨directory, rfl⟩ := (enter_plain_eq_ok_iff p.plainName).mp entered
    exact ⟨short, root, found, directory, rfl⟩
  · rintro ⟨short, root, found, directory, rfl⟩
    have entered := (enter_plain_eq_ok_iff p.plainName).mpr ⟨directory, rfl⟩
    exact ⟨_, bind_eq_ok.mpr ⟨root, found, entered⟩, short, rfl⟩

theorem fileAt_inside {name : String} (plain : PlainName name) {place : Location}
    (h : t.FileAt (l.directory p / name) place) :
    Fits (l.directory p / name) ∧ ∃ root, t.rootOf l = .ok root ∧
      t.look root p.name = .ok (some .directory) ∧ place = root ++ [p.name, name] := by
  obtain ⟨⟨here, name', leads, rfl⟩, -⟩ := h
  obtain ⟨fits, -, root, found, directory, same⟩ := (spot_inside_eq_ok_iff plain).mp leads
  cases same
  exact ⟨fits, root, found, directory, by simp⟩

theorem spot_file_congr (h : t.rootOf l = .ok root) (h' : t'.rootOf l = .ok root)
    (directory : t'.get? (root ++ [p.name]) = t.get? (root ++ [p.name])) :
    t'.spot (l.file p s) = t.spot (l.file p s) := by
  have walked {u : Tree} (found : u.rootOf l = .ok root) :
      u.walk (u.start (l.directory p)) (l.directory p).above = u.enter root p.name.toList := by
    rw [start_directory, Layout.directory, walk_div _ p.plainName]
    rw [rootOf] at found
    rw [found]
    rfl
  have entered : t'.enter root p.name.toList = t.enter root p.name.toList := by
    simp only [enter, look, String.ofList_toList, directory]
  rw [Layout.file, spot_div s.plainName, spot_div s.plainName, walked h, walked h', entered]

theorem find_file_congr (h : t.rootOf l = .ok root) (h' : t'.rootOf l = .ok root)
    (directory : t'.get? (root ++ [p.name]) = t.get? (root ++ [p.name]))
    (file : t'.get? (root ++ [p.name, s.fileName]) = t.get? (root ++ [p.name, s.fileName])) :
    t'.find (l.file p s) = t.find (l.file p s) := by
  rw [find, find, spot_file_congr h h' directory]
  cases leads : t.spot (l.file p s) with
  | error f => rfl
  | ok spot =>
    obtain ⟨-, -, root', found, -, rfl⟩ := (spot_inside_eq_ok_iff s.plainName).mp leads
    rw [h] at found
    cases found
    have place : root ++ [p.name] ++ [s.fileName] = root ++ [p.name, s.fileName] := by simp
    simp only [bind, Except.bind, place, file]

theorem temporary_file (l : Layout) (p : Partition) (s : Split) :
    (l.file p s).temporary = l.directory p / (s.fileName ++ ".tmp") :=
  temporary_div_div p.plainName s.plainName

theorem parent?_file (l : Layout) (p : Partition) (s : Split) :
    (l.file p s).parent? = some (l.directory p) := parent?_div_div p.plainName s.plainName

end File

end Tree

namespace Disk

/-- What writing the file of a split leaves behind, once the root of the layout is there: the
directory of the partition, the file, and no sibling. -/
structure WrittenFile (l : Layout) (p : Partition) (s : Split) (content : Content) (root : Location)
    (t t' : Tree) : Prop where
  rooted : t'.rootOf l = .ok root
  find : ∃ executable,
    t'.find (l.file p s) = .ok (root ++ [p.name, s.fileName], .file content executable)
  sibling : t'.get? (root ++ [p.name, s.fileName ++ ".tmp"]) = none
  directory : t'.get? (root ++ [p.name]) = some .directory
  before : t.get? (root ++ [p.name]) = none ∨ t.get? (root ++ [p.name]) = some .directory
  other : ∀ m, m ≠ root ++ [p.name] → m ≠ root ++ [p.name, s.fileName] →
    m ≠ root ++ [p.name, s.fileName ++ ".tmp"] → t'.get? m = t.get? m

variable {t t' : Tree} {l : Layout} {p : Partition} {s : Split} {root : Location}

/-- Where the root is, the directory of a partition needs no other directory. -/
theorem get?_makeDirectories_of_rootOf (rooted : t.rootOf l = .ok root) {m : Location}
    (other : m ≠ root ++ [p.name]) :
    ((makeDirectories (l.directory p)).on t).2.get? m = t.get? m := by
  have walked : t.walk (t.start l.root) l.root.above = .ok root := rooted
  refine get?_makeDirectories ?_ fun here name slash leads => ?_
  · rw [Layout.directory, spot_div p.plainName, walked, ok_bind]
    repeat' split
    all_goals nofun
  · obtain ⟨-, root', rooted', -, same⟩ := spot_directory_eq_ok_iff.mp leads
    rw [rooted] at rooted'
    cases rooted'
    cases same
    exact other

theorem rootOf_of_keeps (keeps : KeepsDirectories t t') (found : t.rootOf l = .ok root) :
    t'.rootOf l = .ok root := by
  rw [rootOf, keeps.start]
  exact walk_of_keeps keeps found

theorem sibling_ne (p : Partition) (s : Split) (root : Location) :
    root ++ [p.name, s.fileName ++ ".tmp"] ≠ root ++ [p.name, s.fileName] := by
  intro same
  have names := List.append_cancel_left same
  cases s <;> simp [Split.fileName] at names

theorem writtenFile_of_writeAtomically {write : Except Failure Content}
    (found : t.rootOf l = .ok root)
    (h : (writeAtomically (l.file p s) write).on t = (.ok (), t')) :
    ∃ content, write = .ok content ∧ WrittenFile l p s content root t t' := by
  obtain ⟨between, made, replaced⟩ := writeAtomically_on_ok.mp h
  rw [parent?_file] at made
  have grows := grows_makeDirectories made
  obtain ⟨content, origin, goal, given, sibling, target, result⟩ := replaced_of_replace replaced
  refine ⟨content, given, ?_⟩
  have written := written_of_replaced grows sibling target result
  have found' : between.rootOf l = .ok root := rootOf_of_keeps grows.keeps found
  rw [temporary_file] at sibling
  obtain ⟨fits, root₁, found₁, looked, rfl⟩ := fileAt_inside s.plainName_temporary sibling
  obtain ⟨-, root₂, found₂, -, rfl⟩ := fileAt_inside s.plainName target
  rw [found'] at found₁ found₂
  cases found₁
  cases found₂
  obtain ⟨-, directory⟩ := look_eq_ok_iff.mp looked
  have only {m : Location} (other : m ≠ root ++ [p.name]) := get?_makeDirectories_of_rootOf found other
  rw [made] at only
  refine ⟨rootOf_of_keeps written.keeps found, written.find, ?_, ?_, ?_, fun m dir file tmp => ?_⟩
  · exact result.gone (sibling_ne p s root)
  · exact (result.keeps sibling.2 target.2).directory _ directory
  · rcases grows.get? (root ++ [p.name]) with same | ⟨free, -⟩
    · exact Or.inr (same ▸ directory)
    · exact Or.inl free
  · rw [result.other m tmp file, only dir]

end Disk

end PuzzlePrep

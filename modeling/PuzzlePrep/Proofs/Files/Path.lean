import PuzzlePrep.Files.Atomic
import PuzzlePrep.Proofs.Text.Lines

namespace PuzzlePrep.Path

open Text

structure PlainName (name : String) : Prop where
  named : name.toList ≠ []
  dot : name.toList ≠ ['.']
  dots : name.toList ≠ ['.', '.']
  slash : '/' ∉ name.toList

theorem PlainName.not_silent {name : String} (plain : PlainName name) :
    silent name.toList = false := by
  simp [silent, plain.named, plain.dot]

def unrooted : List Char → List Char
  | '/' :: rest => rest
  | cs => cs

theorem parts_eq (p : Path) : p.parts = pieces (· == '/') (unrooted p.text.toList) := by
  unfold parts
  split
  · rename_i rest rooted
    rw [rooted]
    rfl
  · rename_i plain
    rw [unrooted]
    exact plain

theorem unrooted_append {cs : List Char} (some : cs ≠ []) (more : List Char) :
    unrooted (cs ++ more) = unrooted cs ++ more := by
  obtain ⟨c, cs, rfl⟩ := List.exists_cons_of_ne_nil some
  by_cases slash : c = '/'
  · subst slash
    rfl
  · simp only [List.cons_append]
    rw [unrooted, unrooted]
    · rfl
    · simpa using slash
    · simpa using slash

def above (base : Path) : List (List Char) :=
  if base.text.toList = [] then []
  else if base.text.toList.getLast? = some '/' then base.parts.dropLast
  else base.parts

/-- Only an empty part at the end is left out. -/
theorem parts_above (base : Path) : base.parts = base.above ++ [[]] ∨ base.parts = base.above := by
  rw [above]
  split
  · rename_i empty
    left
    rw [parts_eq, empty]
    rfl
  · split
    · rename_i slash
      obtain ⟨front, split⟩ := List.getLast?_eq_some_iff.mp slash
      have ends : ∃ more, base.parts = more ++ [[]] := by
        rw [parts_eq, split]
        by_cases root : front = []
        · exact ⟨[], by simp [root, unrooted, Text.pieces]⟩
        · rw [unrooted_append root, Text.pieces_append_sep (by simp)]
          exact ⟨_, rfl⟩
      obtain ⟨more, ends⟩ := ends
      rw [ends, List.dropLast_concat]
      exact Or.inl rfl
    · exact Or.inr rfl

section Div

variable {base : Path} {name : String}

theorem PlainName.head (plain : PlainName name) : name.toList.head? ≠ some '/' := by
  intro first
  exact plain.slash (List.mem_of_head? first)

theorem PlainName.pieces (plain : PlainName name) :
    Text.pieces (· == '/') name.toList = [name.toList] :=
  pieces_of_all fun c member => by
    have other : c ≠ '/' := fun same => plain.slash (same ▸ member)
    simpa using other

theorem unrooted_of_head {cs : List Char} (relative : cs.head? ≠ some '/') : unrooted cs = cs := by
  rw [unrooted]
  rintro rest rfl
  exact relative rfl

theorem toList_div (plain : PlainName name) : (base / name).text.toList =
    if base.text.toList = [] ∨ base.text.toList.getLast? = some '/' then
      base.text.toList ++ name.toList
    else base.text.toList ++ '/' :: name.toList := by
  have relative : (Path.mk name).isAbsolute = false := by simpa [isAbsolute] using plain.head
  show (base.join ⟨name⟩).text.toList = _
  rw [join, relative]
  cases last : base.text.toList.getLast? with
  | none => simp [List.getLast?_eq_none_iff.mp last]
  | some c =>
    have some : base.text.toList ≠ [] := by
      intro empty
      simp [empty] at last
    by_cases slash : c = '/'
    · subst slash
      simp
    · simp [some, slash]

theorem parts_div (plain : PlainName name) : (base / name).parts = base.above ++ [name.toList] := by
  rw [parts_eq, toList_div plain, above]
  by_cases empty : base.text.toList = []
  · simp [empty, unrooted_of_head plain.head, plain.pieces]
  · by_cases slash : base.text.toList.getLast? = some '/'
    · obtain ⟨front, split⟩ := List.getLast?_eq_some_iff.mp slash
      simp only [empty, slash, or_true, if_true, if_false]
      rw [parts_eq, split]
      by_cases root : front = []
      · simp [root, unrooted, plain.pieces, Text.pieces]
      · rw [unrooted_append root, pieces_append_sep (by simp), List.append_assoc,
          unrooted_append root, List.singleton_append, pieces_append_sep (by simp), plain.pieces]
        simp [Text.pieces]
    · simp only [empty, slash, or_false, if_false]
      rw [unrooted_append empty, pieces_append_sep (by simp), plain.pieces, parts_eq]

theorem isAbsolute_div (plain : PlainName name) : (base / name).isAbsolute = base.isAbsolute := by
  rw [isAbsolute, isAbsolute, toList_div plain]
  by_cases empty : base.text.toList = []
  · simpa [empty] using plain.head
  · obtain ⟨c, cs, split⟩ := List.exists_cons_of_ne_nil empty
    rw [split]
    split <;> rfl

theorem getLast?_div (plain : PlainName name) :
    (base / name).text.toList.getLast? = name.toList.getLast? := by
  obtain ⟨c, found⟩ := Option.isSome_iff_exists.mp (List.getLast?_isSome.mpr plain.named)
  rw [toList_div plain]
  split
  · rw [List.getLast?_append, found, Option.some_or]
  · rw [List.append_cons, List.getLast?_append, found, Option.some_or]

theorem toList_div_ne_nil (plain : PlainName name) : (base / name).text.toList ≠ [] := by
  intro empty
  have last := getLast?_div plain ▸ congrArg List.getLast? empty
  exact plain.named (List.getLast?_eq_none_iff.mp last)

theorem above_div (plain : PlainName name) : (base / name).above = base.above ++ [name.toList] := by
  have last : (base / name).text.toList.getLast? ≠ some '/' := by
    rw [getLast?_div plain]
    exact fun slash => plain.slash (List.mem_of_getLast? slash)
  rw [above, if_neg (toList_div_ne_nil plain), if_neg last, parts_div plain]

theorem dropSilent_concat {front : List (List Char)} {last : List Char}
    (named : silent last = false) : dropSilent (front ++ [last]) = front ++ [last] := by
  simp [dropSilent, named]

theorem namingParts_concat (absolute : Bool) {front : List (List Char)} {last : List Char}
    (named : silent last = false) :
    namingParts absolute (front ++ [last]) = front ++ [last] := by
  rw [namingParts.eq_def]
  split
  · rename_i rest split
    cases front with
    | nil =>
      cases split
      cases named
    | cons first front =>
      simp only [List.cons_append, List.cons.injEq] at split
      rw [← split.2, dropSilent_concat named, split.1]
      rfl
  · exact dropSilent_concat named

theorem fileName?_div (plain : PlainName name) : (base / name).fileName? = some name := by
  rw [fileName?, parts_div plain, namingParts_concat _ plain.not_silent, List.getLast?_concat]
  simp [plain.dot, plain.dots]

end Div

section Parent

theorem ofParts_parts (p : Path) : ofParts p.isAbsolute p.parts = p := by
  rw [ofParts, parts_eq, join_pieces, isAbsolute]
  have whole : (if (p.text.toList.head? == some '/') = true then '/' :: unrooted p.text.toList
      else unrooted p.text.toList) = p.text.toList := by
    by_cases rooted : p.text.toList.head? = some '/'
    · obtain ⟨rest, split⟩ := List.head?_eq_some_iff.mp rooted
      simp [split, unrooted]
    · simp [rooted, unrooted_of_head rooted]
  rw [whole, String.ofList_toList]

theorem parent?_div_div {base : Path} {dir name : String} (plainDir : PlainName dir)
    (plain : PlainName name) : (base / dir / name).parent? = some (base / dir) := by
  rw [parent?, parts_div plain, namingParts_concat _ plain.not_silent, List.dropLast_concat,
    above_div plainDir, namingParts_concat _ plainDir.not_silent, isAbsolute_div plain]
  rw [← parts_div plainDir, ofParts_parts, parts_div plainDir, if_neg (by simp)]

theorem temporary_div_div {base : Path} {dir name : String} (plainDir : PlainName dir)
    (plain : PlainName name) :
    (base / dir / name).temporary = base / dir / (name ++ ".tmp") := by
  rw [temporary, fileName?_div plain, withFileName, fileName?_div plain,
    parent?_div_div plainDir plain]
  rfl

end Parent

end PuzzlePrep.Path

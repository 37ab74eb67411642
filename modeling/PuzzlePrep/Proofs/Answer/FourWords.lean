import Mathlib
import PuzzlePrep.Proofs.Answer.Line
import PuzzlePrep.Proofs.Answer.RewardTable
import PuzzlePrep.Proofs.Answer.Words
import PuzzlePrep.Proofs.Outcome

namespace PuzzlePrep

open Text

/-- The segments are a statement: the words `name`, `is`, `a` and a role in any case, and nothing but
blanks between them. -/
def IsStatementRow (name : List Char) (role : Role) (row : List (List Char)) : Prop :=
  ∃ n b₁ is b₂ a b₃ r, row = [n, b₁, is, b₂, a, b₃, r] ∧ SameText name n ∧ allBlank b₁ = true ∧
    SameText ['i', 's'] is ∧ allBlank b₂ = true ∧ SameText ['a'] a ∧ allBlank b₃ = true ∧
    SameText role.word r

def StatedBehind (name : List Char) (role : Role) (segs : List (List Char)) (text : List Char) :
    Prop :=
  ∃ row after, segments text = segs ++ row ++ after ∧ IsStatementRow name role row

/-- The first of the statements about the name gives it this role. -/
def StatedFirst (name : List Char) (role : Role) (text : List Char) : Prop :=
  ∃ segs, StatedBehind name role segs text ∧
    ∀ role' segs', StatedBehind name role' segs' text → segs.length ≤ segs'.length

section Rows

variable {name text before : List Char} {role : Role} {segs : List (List Char)}

theorem StatedBehind.front (h : StatedBehind name role segs text) : segs <+: segments text := by
  obtain ⟨row, after, split, -⟩ := h
  exact ⟨row ++ after, by rw [split, List.append_assoc]⟩

theorem IsStatement.exists_row {statement after : List Char} (hn : IsName name)
    (h : IsStatement name role statement) (stop : wordAhead after = false) :
    ∃ row, IsStatementRow name role row ∧ segments (statement ++ after) = row ++ segments after := by
  obtain ⟨n, _, r, rfl, same, ⟨b₁, is, b₂, a, b₃, rfl, hb₁, his, hb₂, ha, hb₃⟩, sameRole⟩ := h
  have isName := isName_is.of_sameText his
  have aName := isName_a.of_sameText ha
  have rName := role.isName_word.of_sameText sameRole
  refine ⟨[n, b₁, is, b₂, a, b₃, r], ⟨n, b₁, is, b₂, a, b₃, r, rfl, same, hb₁.allBlank, his,
    hb₂.allBlank, ha, hb₃.allBlank, sameRole⟩, ?_⟩
  simp only [List.append_assoc]
  rw [segments_name_blanks (hn.of_sameText same) hb₁ (isName.wordAhead_append _),
    segments_name_blanks isName hb₂ (aName.wordAhead_append _),
    segments_name_blanks aName hb₃ (rName.wordAhead_append _), segments_run rName.isRun stop]
  rfl

theorem StatementAt.statedBehind (hn : IsName name)
    (h : StatementAt name role false before text) :
    StatedBehind name role (segments before) text := by
  obtain ⟨statement, after, rfl, isStatement, stop, ahead⟩ := h
  obtain ⟨row, isRow, split⟩ := isStatement.exists_row hn ahead
  obtain ⟨n, phrase, r, rfl, same, -⟩ := isStatement
  refine ⟨row, segments after, ?_, isRow⟩
  have first : wordAhead (n ++ phrase ++ r ++ after) = true := by
    simp only [List.append_assoc]
    exact (hn.of_sameText same).wordAhead_append _
  rw [List.append_assoc before, segments_append_of_word stop first, split, List.append_assoc]

theorem StatedBehind.statementAt (hn : IsName name) (h : StatedBehind name role segs text) :
    StatementAt name role false segs.flatten text := by
  obtain ⟨_, after, split, n, b₁, is, b₂, a, b₃, r, rfl, same, hb₁, his, hb₂, ha, hb₃, sameRole⟩ := h
  have nRun := (hn.of_sameText same).isRun
  have rRun := (role.isName_word.of_sameText sameRole).isRun
  have blanks {b : List Char} (member : b ∈ [b₁, b₂, b₃]) (blank : allBlank b = true) : Blanks b := by
    have inside : b ∈ segments text := by
      rw [split]
      simp only [List.mem_cons, List.not_mem_nil, or_false] at member
      rcases member with rfl | rfl | rfl <;> simp
    exact ⟨ne_nil_of_mem_segments inside, allBlank_iff.mp blank⟩
  have atName : segments text = segs ++ n :: ([b₁, is, b₂, a, b₃, r] ++ after) := by
    simpa using split
  have atRole : segments text = segs ++ [n, b₁, is, b₂, a, b₃] ++ r :: after := by simpa using split
  have front := (bounded_of_segments atName nRun).1
  have back := (bounded_of_segments atRole rRun).2
  have whole := flatten_segments text
  rw [split, List.flatten_append, List.flatten_append] at whole
  refine ⟨_, _, whole.symm, ⟨n, b₁ ++ is ++ b₂ ++ a ++ b₃, r, by simp, same, ?_, sameRole⟩, front,
    back⟩
  exact ⟨b₁, is, b₂, a, b₃, rfl, blanks (by simp) hb₁, his, blanks (by simp) hb₂, ha,
    blanks (by simp) hb₃⟩

theorem statementAt_iff_statedBehind (hn : IsName name) : StatementAt name role false before text ↔
    ∃ segs, before = segs.flatten ∧ StatedBehind name role segs text := by
  constructor
  · intro found
    exact ⟨segments before, (flatten_segments before).symm, found.statedBehind hn⟩
  · rintro ⟨segs, rfl, behind⟩
    exact behind.statementAt hn

theorem leftmostStatement_iff_statedFirst (hn : IsName name) :
    LeftmostStatement name role text ↔ StatedFirst name role text := by
  constructor
  · rintro ⟨before, found, first⟩
    obtain ⟨segs, rfl, behind⟩ := (statementAt_iff_statedBehind hn).mp found
    refine ⟨segs, behind, fun role' segs' behind' => ?_⟩
    have earlier := first role' _ (behind'.statementAt hn)
    exact (length_flatten_le_iff behind.front behind'.front).mp earlier
  · rintro ⟨segs, behind, first⟩
    refine ⟨segs.flatten, behind.statementAt hn, fun role' before' found => ?_⟩
    obtain ⟨segs', rfl, behind'⟩ := (statementAt_iff_statedBehind hn).mp found
    exact (length_flatten_le_iff behind.front behind'.front).mpr (first role' segs' behind')

theorem isSome_statedRole?_iff (hn : IsName name) : (statedRole? name false text).isSome = true ↔
    ∃ role segs, StatedBehind name role segs text := by
  rw [Option.isSome_iff_exists, ← saysOf_iff_statedRole? hn]
  constructor
  · rintro ⟨role, before, found⟩
    exact ⟨role, segments before, found.statedBehind hn⟩
  · rintro ⟨role, segs, behind⟩
    exact ⟨role, segs.flatten, behind.statementAt hn⟩

end Rows

theorem map_stated_eq_some_iff {name : String} {x : String × Role} {text : List Char} :
    (statedRole? name.toList false text).map (name, ·) = some x ↔
      x.1 = name ∧ statedRole? name.toList false text = some x.2 := by
  rw [Option.map_eq_some_iff]
  constructor
  · rintro ⟨role, read, rfl⟩
    exact ⟨rfl, read⟩
  · rintro ⟨rfl, read⟩
    exact ⟨x.2, read, rfl⟩

theorem statedRole?_of_mem {names : List String} {stated : Identities} {text : List Char}
    (read : statedIdentities? text names = some stated) {name : String} {role : Role}
    (member : (name, role) ∈ stated) : statedRole? name.toList false text = some role := by
  obtain ⟨name', -, found⟩ := mem_of_mapM read member
  obtain ⟨rfl, first⟩ := map_stated_eq_some_iff.mp found
  exact first

/-- All names are read if there is a row of words about each of them, and then they come with the
roles in the first rows about them. What is read of one name is the same whatever the others are. -/
theorem statedIdentities?_by_words (answer : List Char) :
    (∀ names : List String, (∀ name ∈ names, IsName name.toList) →
      ((statedIdentities? answer names).isSome = true ↔
        ∀ name ∈ names, ∃ role segs, StatedBehind name.toList role segs answer) ∧
      ∀ stated, statedIdentities? answer names = some stated ↔
        List.Forall₂ (fun name x => x.1 = name ∧ StatedFirst name.toList x.2 answer) names stated) ∧
    ∀ names names' stated stated', statedIdentities? answer names = some stated →
      statedIdentities? answer names' = some stated' →
      ∀ name role role', (name, role) ∈ stated → (name, role') ∈ stated' → role = role' := by
  constructor
  · intro names isName
    constructor
    · rw [statedIdentities?, isSome_mapM_iff]
      refine forall₂_congr fun name member => ?_
      rw [Option.isSome_map, isSome_statedRole?_iff (isName name member)]
    · intro stated
      refine mapM_eq_some_iff_of_each fun name member x => ?_
      have hn := isName name member
      rw [map_stated_eq_some_iff, statedRole?_eq_some_iff hn, leftmostStatement_iff_statedFirst hn]
  · intro names names' stated stated' read read' name role role' member member'
    have first := statedRole?_of_mem read member
    rw [statedRole?_of_mem read' member'] at first
    exact (Option.some.inj first).symm

/-- Names that are words of the statements themselves, one of them twice, with a statement over two
lines and one whose last word is longer. -/
theorem statedIdentities?_by_words_of_four :
    List.Forall₂
      (fun name x => x.1 = name ∧
        StatedFirst name.toList x.2 "a is\n a KNIGHT; is is A knave. A is a knave, is a knight2".toList)
      ["A", "is", "a", "A"] [("A", .knight), ("is", .knave), ("a", .knight), ("A", .knight)] :=
  (((statedIdentities?_by_words _).1 _ (by decide_cbv)).2 _).mp (by decide_cbv)

end PuzzlePrep

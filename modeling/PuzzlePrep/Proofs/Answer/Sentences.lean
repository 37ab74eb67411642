import Mathlib
import PuzzlePrep.Proofs.Answer.FourWords
import PuzzlePrep.Proofs.Answer.Numbered

namespace PuzzlePrep

open Text

def sentence (x : String × Role) : List Char :=
  x.1.toList ++ ([' ', 'i', 's', ' ', 'a', ' '] ++ x.2.word)

def sentences (told : Identities) : List Char := join ['\n'] (told.map sentence)

/-- The role in the first line with the name, in any case. -/
def firstRole? (told : Identities) (name : String) : Option Role :=
  (told.find? (SameText name.toList ·.1.toList)).map Prod.snd

/-- The role in the last line with just this name. -/
def lastRole? (told : Identities) (name : String) : Option Role := told.reverse.lookup name

section Sentence

variable {x : String × Role}

theorem words_of_afterIsA? {cs rest : List Char} (found : afterIsA? cs = some rest) :
    ∃ is a, words cs = is :: a :: words rest ∧ SameText ['a'] a := by
  obtain ⟨_, ⟨b₁, is, b₂, a, b₃, rfl, hb₁, his, hb₂, ha, hb₃⟩, rfl, -⟩ :=
    afterIsA?_eq_some_iff.mp found
  refine ⟨is, a, ?_, ha⟩
  simp only [List.append_assoc]
  rw [words_gap hb₁.not_isWord, words_run (isName_is.of_sameText his).isRun (hb₂.wordAhead_append _),
    words_gap hb₂.not_isWord, words_run (isName_a.of_sameText ha).isRun (hb₃.wordAhead_append _),
    words_gap hb₃.not_isWord]

/-- The second word of a line is `is`, so that none goes on with `is a`. -/
theorem endsStatement_of_sentence (isName : IsName x.1.toList) (rest : List Char) :
    EndsStatement ('\n' :: (sentence x ++ rest)) := by
  refine ⟨by rfl, ?_⟩
  cases found : afterIsA? ('\n' :: (sentence x ++ rest)) with
  | none => rfl
  | some behind =>
    obtain ⟨is, a, split, same⟩ := words_of_afterIsA? found
    have newline : ∀ c ∈ ['\n'], isWord c = false := List.forall_mem_singleton.mpr (by decide)
    have blank : ∀ c ∈ [' '], isWord c = false := List.forall_mem_singleton.mpr (by decide)
    have line : '\n' :: (sentence x ++ rest) =
        ['\n'] ++ (x.1.toList ++ ([' '] ++ (['i', 's'] ++ ' ' :: 'a' :: ' ' :: (x.2.word ++ rest)))) := by
      simp [sentence]
    rw [line, words_gap newline, words_run isName.isRun rfl, words_gap blank,
      words_run isName_is.isRun (by rfl), List.cons.injEq, List.cons.injEq] at split
    rw [← split.2.1] at same
    exact absurd same.length (by decide)

theorem identityOf?_sentence (isName : IsName x.1.toList) :
    identityOf? (trim (sentence x)) = some x := by
  have found : nameWord? false (sentence x) =
      some (x.1.toList, [' ', 'i', 's', ' ', 'a', ' '] ++ x.2.word) := nameWord?_name isName rfl
  rw [sentence, trim_name_role isName, ← sentence]
  simp only [identityOf?, Option.bind_eq_bind, found, roleWord?_isA isA_phrase (SameText.refl _),
    Option.bind_some, String.ofList_toList]
  rfl

theorem not_mem_sentence {c : Char} (isName : IsName x.1.toList) (other : isLetter c = false)
    (visible : c ≠ ' ') : c ∉ sentence x := by
  have letters {w : List Char} (isName : IsName w) : c ∉ w := by
    intro inside
    rw [isName.2 c inside] at other
    cases other
  have phrase : c ∉ [' ', 'i', 's', ' ', 'a', ' '] := by
    intro inside
    simp only [List.mem_cons, visible, List.not_mem_nil, false_or, or_false] at inside
    rcases inside with rfl | rfl | rfl <;> cases other
  simp only [sentence, List.mem_append, not_or]
  exact ⟨letters isName, phrase, letters x.2.isName_word⟩

end Sentence

section Sentences

variable {told : Identities} (names : ∀ x ∈ told, IsName x.1.toList)

include names

theorem normalizeNewlines_sentences : normalizeNewlines (sentences told) = sentences told := by
  apply normalizeNewlines_of_settled
  apply settled_of_not_occurs
  rintro ⟨before, after, split⟩
  have written : '\\' ∈ sentences told := by simp [split, escapedNewline]
  refine not_mem_join (by decide) ?_ written
  intro line member
  obtain ⟨x, inside, rfl⟩ := List.mem_map.mp member
  exact not_mem_sentence (names x inside) (by decide) (by decide)

theorem toldIn_sentences : toldIn (sentences told) = told := by
  by_cases empty : told = []
  · subst empty
    rfl
  · have pieces : lines (sentences told) = told.map sentence := by
      apply pieces_join (by simpa using empty)
      intro line member
      obtain ⟨x, inside, rfl⟩ := List.mem_map.mp member
      exact not_mem_sentence (names x inside) (by decide) (by decide)
    rw [toldIn, pieces, List.filterMap_map]
    have each : ∀ x ∈ told, ((identityOf? <| trim ·) ∘ sentence) x = some x :=
      fun x member => identityOf?_sentence (names x member)
    rw [List.filterMap_congr each, List.filterMap_some]

theorem trueIdentities_sentences :
    trueIdentities (sentences told) = Identities.noteAll [] told := by
  rw [trueIdentities_eq, normalizeNewlines_sentences names, toldIn_sentences names]

theorem statedRole?_sentences {name : String} (isName : IsName name.toList) :
    statedRole? name.toList false (sentences told) = firstRole? told name := by
  induction told with
  | nil => rfl
  | cons x told ih =>
    obtain ⟨head, tail⟩ := List.forall_mem_cons.mp names
    have own {behind : List Char} (ends : EndsStatement behind) :
        statedRole? name.toList false (sentence x ++ behind) =
          if SameText name.toList x.1.toList then some x.2
          else statedRole? name.toList false behind := by
      have line : sentence x ++ behind =
          x.1.toList ++ ([' ', 'i', 's', ' ', 'a', ' '] ++ (x.2.word ++ behind)) := by
        simp [sentence]
      rw [line]
      exact statedRole?_own isName head isA_phrase (SameText.refl _) ends
    have first : firstRole? (x :: told) name =
        if SameText name.toList x.1.toList then some x.2 else firstRole? told name := by
      by_cases same : SameText name.toList x.1.toList <;> simp [firstRole?, same]
    rw [first, ← ih tail]
    cases told with
    | nil =>
      have alone := own (endsStatement_of_allBlank (b := []) rfl)
      rwa [List.append_nil] at alone
    | cons y told =>
      have split : sentences (x :: y :: told) = sentence x ++ '\n' :: sentences (y :: told) := by
        rw [sentences, List.map_cons, join_cons_of_ne_nil _ _ (by simp)]
        simp [sentences]
      obtain ⟨rest, begins⟩ : ∃ rest, sentences (y :: told) = sentence y ++ rest := by
        by_cases last : told = []
        · exact ⟨[], by simp [last, sentences, join]⟩
        · refine ⟨['\n'] ++ sentences told, ?_⟩
          rw [sentences, List.map_cons, join_cons_of_ne_nil _ _ (by simpa using last),
            List.append_assoc]
          rfl
      have ends : EndsStatement ('\n' :: sentences (y :: told)) := by
        rw [begins]
        exact endsStatement_of_sentence (tail y List.mem_cons_self) rest
      rw [split, own ends, statedRole?_cons_of_not_word isName (by decide)]

theorem statedIdentities?_sentences_iff {asked : List String}
    (isName : ∀ name ∈ asked, IsName name.toList) {stated : Identities} :
    statedIdentities? (sentences told) asked = some stated ↔
      List.Forall₂ (fun name x => x.1 = name ∧ firstRole? told name = some x.2) asked stated := by
  refine mapM_eq_some_iff_of_each fun name member x => ?_
  rw [map_stated_eq_some_iff, statedRole?_sentences names (isName name member)]

theorem map_fst_trueIdentities_sentences :
    (trueIdentities (sentences told)).map Prod.fst = (told.map Prod.fst).eraseDups := by
  rw [trueIdentities_sentences names, map_fst_noteAll]

theorem lastRole?_of_mem_trueIdentities :
    ∀ x ∈ trueIdentities (sentences told), lastRole? told x.1 = some x.2 := by
  rw [trueIdentities_sentences names]
  exact fun x member => mem_noteAll_iff.mp member

end Sentences

section Agreement

variable {told : Identities} {name : String} {role : Role}

theorem firstRole?_mem (found : firstRole? told name = some role) :
    ∃ x ∈ told, SameText name.toList x.1.toList ∧ x.2 = role := by
  obtain ⟨x, first, same⟩ := Option.map_eq_some_iff.mp found
  exact ⟨x, List.mem_of_find?_eq_some first, by simpa using List.find?_some first, same⟩

theorem isSome_firstRole? (member : name ∈ told.map Prod.fst) : (firstRole? told name).isSome := by
  obtain ⟨x, inside, rfl⟩ := List.mem_map.mp member
  rw [firstRole?, Option.isSome_map, List.find?_isSome]
  exact ⟨x, inside, by simpa using SameText.refl _⟩

theorem lastRole?_mem (found : lastRole? told name = some role) : (name, role) ∈ told := by
  obtain ⟨l₁, l₂, split, -⟩ := List.lookup_eq_some_iff.mp found
  have inside : (name, role) ∈ told.reverse := by simp [split]
  exact List.mem_reverse.mp inside

/-- Lines that agree on every name, in any case, leave nothing to choose. -/
theorem firstRole?_eq_lastRole?
    (agree : ∀ x ∈ told, ∀ y ∈ told, SameText x.1.toList y.1.toList → x.2 = y.2)
    (member : name ∈ told.map Prod.fst) : firstRole? told name = lastRole? told name := by
  obtain ⟨first, found⟩ := Option.isSome_iff_exists.mp (isSome_firstRole? member)
  obtain ⟨x, inside, same, rfl⟩ := firstRole?_mem found
  have noted : name ∈ (Identities.noteAll [] told).map Prod.fst := by
    rwa [map_fst_noteAll, List.mem_eraseDups]
  obtain ⟨⟨_, last⟩, kept, rfl⟩ := List.mem_map.mp noted
  have final : lastRole? told _ = some last := mem_noteAll_iff.mp kept
  rw [found, final, ← agree _ (lastRole?_mem final) x inside same]

end Agreement

/-- The ground truth has the names in the order in which they first come, with what the last lines
tell of them. The answer says something of each of them, namely what the first lines say that have the
names in any case. So the answer is the ground truth just if these lines give the same roles, as they
do where lines agree whose names differ at most in case. -/
theorem statedIdentities?_sentences {told : Identities} (names : ∀ x ∈ told, IsName x.1.toList) :
    List.Forall₂ (fun name x => x.1 = name ∧ lastRole? told name = some x.2)
      (told.map Prod.fst).eraseDups (trueIdentities (sentences told)) ∧
    (∃ stated, statedIdentities? (sentences told) ((trueIdentities (sentences told)).map Prod.fst) =
        some stated ∧
      List.Forall₂ (fun name x => x.1 = name ∧ firstRole? told name = some x.2)
        (told.map Prod.fst).eraseDups stated) ∧
    (statedIdentities? (sentences told) ((trueIdentities (sentences told)).map Prod.fst) =
        some (trueIdentities (sentences told)) ↔
      ∀ name ∈ told.map Prod.fst, firstRole? told name = lastRole? told name) ∧
    ((∀ x ∈ told, ∀ y ∈ told, SameText x.1.toList y.1.toList → x.2 = y.2) →
      statedIdentities? (sentences told) ((trueIdentities (sentences told)).map Prod.fst) =
        some (trueIdentities (sentences told))) := by
  have order := map_fst_trueIdentities_sentences names
  have last := lastRole?_of_mem_trueIdentities names
  have known {name : String} :
      name ∈ (told.map Prod.fst).eraseDups ↔ name ∈ told.map Prod.fst := List.mem_eraseDups
  have isName : ∀ name ∈ (told.map Prod.fst).eraseDups, IsName name.toList := by
    intro name member
    obtain ⟨x, inside, rfl⟩ := List.mem_map.mp (known.mp member)
    exact names x inside
  have same : statedIdentities? (sentences told) ((trueIdentities (sentences told)).map Prod.fst) =
        some (trueIdentities (sentences told)) ↔
      ∀ name ∈ told.map Prod.fst, firstRole? told name = lastRole? told name := by
    rw [statedIdentities?_sentences_iff names (by rwa [order]), List.forall₂_map_left_iff,
      List.forall₂_same]
    constructor
    · intro first name member
      rw [← known, ← order] at member
      obtain ⟨x, inside, rfl⟩ := List.mem_map.mp member
      rw [(first x inside).2, last x inside]
    · intro agree x inside
      have member : x.1 ∈ (trueIdentities (sentences told)).map Prod.fst := List.mem_map_of_mem inside
      rw [order, known] at member
      exact ⟨rfl, (agree x.1 member).trans (last x inside)⟩
  have all : (statedIdentities? (sentences told) (told.map Prod.fst).eraseDups).isSome = true := by
    rw [statedIdentities?, isSome_mapM_iff]
    intro name member
    rw [Option.isSome_map, statedRole?_sentences names (isName name member)]
    exact isSome_firstRole? (known.mp member)
  refine ⟨?_, ?_, same, fun agree => same.mpr fun name => firstRole?_eq_lastRole? agree⟩
  · rw [← order, List.forall₂_map_left_iff, List.forall₂_same]
    exact fun x inside => ⟨rfl, last x inside⟩
  · obtain ⟨stated, read⟩ := Option.isSome_iff_exists.mp all
    rw [order]
    exact ⟨stated, read, (statedIdentities?_sentences_iff names isName).mp read⟩

/-- Four lines, the last two about the name of the first: in other case with its role, then as it
stands there. -/
theorem statedIdentities?_sentences_of_four :
    statedIdentities? (sentences [("Al", .knight), ("is", .knave), ("AL", .knight), ("Al", .knight)])
        ((trueIdentities
          (sentences [("Al", .knight), ("is", .knave), ("AL", .knight), ("Al", .knight)])).map
            Prod.fst) =
      some (trueIdentities
        (sentences [("Al", .knight), ("is", .knave), ("AL", .knight), ("Al", .knight)])) :=
  (statedIdentities?_sentences (by decide_cbv)).2.2.2 (by decide_cbv)

/-- Two lines that give one name both roles: the answer says the first, the ground truth keeps the
second. -/
theorem sentences_read_apart :
    ∃ told : Identities, told ≠ [] ∧ (∀ x ∈ told, IsName x.1.toList) ∧
      sentences told = "A is a knight\nA is a knave".toList ∧
      trueIdentities (sentences told) = [("A", .knave)] ∧
      statedIdentities? (sentences told) ((trueIdentities (sentences told)).map Prod.fst) =
        some [("A", .knight)] ∧
      statedIdentities? (sentences told) ((trueIdentities (sentences told)).map Prod.fst) ≠
        some (trueIdentities (sentences told)) := by
  refine ⟨[("A", .knight), ("A", .knave)], ?_⟩
  decide_cbv

end PuzzlePrep

import Mathlib
import PuzzlePrep.Proofs.Answer.Truth
import PuzzlePrep.Proofs.Answer.Words

namespace PuzzlePrep

open Text

namespace Role

variable {r r' : Role} {w : List Char}

theorem eq_of_sameText (same : SameText r.word w) (same' : SameText r'.word w) : r = r' := by
  have lengths := same.length.trans same'.length.symm
  cases r <;> cases r' <;> first | rfl | exact absurd lengths (by decide)

def ofWord? (w : List Char) : Option Role := all.find? fun r => SameText r.word w

theorem ofWord?_eq_some_iff : ofWord? w = some r ↔ SameText r.word w := by
  constructor
  · intro found
    simpa using List.find?_some found
  · intro same
    cases found : ofWord? w with
    | none => exact absurd same (by simpa using List.find?_eq_none.mp found r r.mem_all)
    | some r' =>
      have same' : SameText r'.word w := by simpa using List.find?_some found
      rw [eq_of_sameText same same']

theorem ofWord?_eq_none_iff : ofWord? w = none ↔ ∀ r : Role, ¬ SameText r.word w := by
  simp only [Option.eq_none_iff_forall_ne_some, ne_eq, ofWord?_eq_some_iff]

end Role

/-- The role that words tell of the name: the name is the first word of letters, and the first role
word behind it is the role. -/
def Tells (ws : List (List Char)) (name : String) (role : Role) : Prop :=
  ∃ before between word after, ws = before ++ name.toList :: (between ++ word :: after) ∧
    (∀ w ∈ before, ¬ IsName w) ∧ IsName name.toList ∧
    (∀ w ∈ between, ∀ r : Role, ¬ SameText r.word w) ∧ SameText role.word word

def tellingOf? : List (List Char) → Option (String × Role)
  | [] => none
  | w :: ws =>
    if IsName w then (ws.findSome? Role.ofWord?).map (String.ofList w, ·) else tellingOf? ws

section Words

variable {ws : List (List Char)} {w : List Char} {name : String} {role : Role}

theorem findSome?_ofWord?_eq_some_iff : ws.findSome? Role.ofWord? = some role ↔
    ∃ between word after, ws = between ++ word :: after ∧
      (∀ w ∈ between, ∀ r : Role, ¬ SameText r.word w) ∧ SameText role.word word := by
  simp only [List.findSome?_eq_some_iff, Role.ofWord?_eq_some_iff, Role.ofWord?_eq_none_iff]
  constructor
  · rintro ⟨between, word, after, split, same, others⟩
    exact ⟨between, word, after, split, others, same⟩
  · rintro ⟨between, word, after, split, others, same⟩
    exact ⟨between, word, after, split, same, others⟩

theorem tells_cons_of_name (first : IsName w) :
    Tells (w :: ws) name role ↔ w = name.toList ∧ ws.findSome? Role.ofWord? = some role := by
  rw [findSome?_ofWord?_eq_some_iff]
  constructor
  · rintro ⟨before, between, word, after, split, others, -, rest⟩
    cases before with
    | nil =>
      obtain ⟨rfl, rfl⟩ := List.cons.inj split
      exact ⟨rfl, between, word, after, rfl, rest⟩
    | cons v before =>
      obtain ⟨rfl, -⟩ := List.cons.inj split
      exact absurd first (others _ List.mem_cons_self)
  · rintro ⟨rfl, between, word, after, rfl, rest⟩
    exact ⟨[], between, word, after, rfl, by simp, first, rest⟩

theorem tells_cons_of_other (other : ¬ IsName w) :
    Tells (w :: ws) name role ↔ Tells ws name role := by
  constructor
  · rintro ⟨before, between, word, after, split, others, isName, rest⟩
    cases before with
    | nil =>
      obtain ⟨rfl, -⟩ := List.cons.inj split
      exact absurd isName other
    | cons v before =>
      obtain ⟨-, split⟩ := List.cons.inj split
      exact ⟨before, between, word, after, split, (List.forall_mem_cons.mp others).2, isName, rest⟩
  · rintro ⟨before, between, word, after, rfl, others, rest⟩
    exact ⟨w :: before, between, word, after, rfl, List.forall_mem_cons.mpr ⟨other, others⟩, rest⟩

theorem tellingOf?_eq_some_iff : tellingOf? ws = some (name, role) ↔ Tells ws name role := by
  induction ws with
  | nil =>
    simp only [tellingOf?, reduceCtorEq, false_iff]
    rintro ⟨before, between, word, after, split, -⟩
    simp at split
  | cons w ws ih =>
    rw [tellingOf?]
    by_cases first : IsName w
    · rw [if_pos first, tells_cons_of_name first, Option.map_eq_some_iff]
      constructor
      · rintro ⟨_, found, same⟩
        cases same
        exact ⟨String.toList_ofList.symm, found⟩
      · rintro ⟨rfl, found⟩
        exact ⟨role, found, by rw [String.ofList_toList]⟩
    · rw [if_neg first, tells_cons_of_other first, ih]

theorem isSome_tellingOf?_iff : (tellingOf? ws).isSome = true ↔
    ∃ name word, ∃ role : Role, [name, word].Sublist ws ∧ IsName name ∧ SameText role.word word := by
  induction ws with
  | nil => simp [tellingOf?]
  | cons w ws ih =>
    rw [tellingOf?]
    by_cases first : IsName w
    · rw [if_pos first, Option.isSome_map, List.isSome_findSome?, List.any_eq_true]
      simp only [Option.isSome_iff_exists, Role.ofWord?_eq_some_iff]
      constructor
      · rintro ⟨word, member, role, same⟩
        exact ⟨w, word, role, (List.singleton_sublist.mpr member).cons_cons w, first, same⟩
      · rintro ⟨name, word, role, order, -, same⟩
        exact ⟨word, List.singleton_sublist.mp order.tail, role, same⟩
    · rw [if_neg first, ih]
      constructor
      · rintro ⟨name, word, role, order, rest⟩
        exact ⟨name, word, role, order.cons w, rest⟩
      · rintro ⟨name, word, role, order, isName, same⟩
        rcases List.sublist_cons_iff.mp order with order | ⟨behind, split, -⟩
        · exact ⟨name, word, role, order, isName, same⟩
        · obtain ⟨rfl, -⟩ := List.cons.inj split
          exact absurd isName first

end Words

theorem roleWord?_eq_findSome? (cs : List Char) :
    roleWord? false cs = (words cs).findSome? Role.ofWord? := by
  induction cs using segments_induction with
  | nil => rfl
  | run w rest hw stop ih =>
    rw [words_run hw stop, List.findSome?_cons]
    cases found : Role.ofWord? w with
    | some r => exact roleWord?_of_role (Role.ofWord?_eq_some_iff.mp found) stop
    | none =>
      have others := Role.ofWord?_eq_none_iff.mp found
      exact (roleWord?_of_other hw stop others).trans ((roleWord?_of_stop stop).trans ih)
  | gap g rest hg _ ih => rw [roleWord?_pad hg.1 hg.2, words_gap hg.2, ih]

theorem identityOf?_eq_tellingOf? (line : List Char) : identityOf? line = tellingOf? (words line) := by
  induction line using segments_induction with
  | nil => rfl
  | run w rest hw stop ih =>
    rw [words_run hw stop, tellingOf?, identityOf?]
    by_cases first : IsName w
    · have behind := (roleWord?_of_stop stop).trans (roleWord?_eq_findSome? rest)
      simp only [nameWord?_name first stop, if_pos first, Option.bind_eq_bind, Option.bind_some,
        behind]
      cases (words rest).findSome? Role.ofWord? <;> rfl
    · rw [nameWord?_of_other hw stop first, if_neg first, ← ih]
      rfl
  | gap g rest hg _ ih =>
    have letters : ∀ c ∈ g, isLetter c = false := fun c member => isLetter_of_isWord (hg.2 c member)
    rw [words_gap hg.2, ← ih, identityOf?, nameWord?_pad letters,
      wordBehind_of_uniform hg.1 hg.2]
    rfl

def toldByWords (text : List Char) : Identities :=
  ((lines (normalizeNewlines text)).filter (!allBlank ·)).filterMap (tellingOf? <| words ·)

theorem words_of_allBlank {line : List Char} (blank : allBlank line = true) : words line = [] := by
  simpa using words_gap (isWord_of_allBlank blank) []

theorem toldByWords_eq (text : List Char) :
    toldByWords text = toldIn (normalizeNewlines text) := by
  rw [toldByWords, List.filterMap_filter, toldIn]
  apply List.filterMap_congr
  intro line _
  rw [identityOf?_eq_tellingOf?, words_trim]
  cases blank : allBlank line with
  | true => simp [words_of_allBlank blank, tellingOf?]
  | false => simp

/-- What a line tells is told by its words: it tells a role if a role word stands behind a word of
letters, and then the first word of letters is the name and the first role word behind it the role.
The true identities are the names in the order in which lines first tell of them, each once, with the
roles that lines last tell of them. -/
theorem trueIdentities_by_words :
    (∀ line, identityOf? (trim line) = tellingOf? (words line)) ∧
    (∀ ws,
      ((tellingOf? ws).isSome = true ↔ ∃ name word, ∃ role : Role,
        [name, word].Sublist ws ∧ IsName name ∧ SameText role.word word) ∧
      ∀ name role, tellingOf? ws = some (name, role) ↔ Tells ws name role) ∧
    ∀ text,
      (trueIdentities text).map Prod.fst = ((toldByWords text).map Prod.fst).eraseDups ∧
      ((trueIdentities text).map Prod.fst).Nodup ∧
      (∀ name role, (name, role) ∈ trueIdentities text ↔
        (toldByWords text).reverse.lookup name = some role) ∧
      ∀ x ∈ trueIdentities text, x.2.name = "knight" ∨ x.2.name = "knave" := by
  refine ⟨fun line => ?_, fun ws => ⟨isSome_tellingOf?_iff, fun _ _ => tellingOf?_eq_some_iff⟩,
    fun text => ?_⟩
  · rw [identityOf?_eq_tellingOf?, words_trim]
  · rw [trueIdentities_eq, ← toldByWords_eq]
    refine ⟨map_fst_noteAll _, nodup_noteAll _ (by simp), fun name role => mem_noteAll_iff, ?_⟩
    intro x _
    cases x.2
    · exact Or.inl rfl
    · exact Or.inr rfl

/-- The name of the first line is the word `is`, as the word before it is not all letters. The last
line tells of it again. -/
theorem trueIdentities_by_words_of_two :
    ("is", Role.knave) ∈ trueIdentities "(1) Zoey2 is Al: a knight\nis: Knave2, KNAVE".toList ∧
      (Role.knave.name = "knight" ∨ Role.knave.name = "knave") := by
  have told := trueIdentities_by_words.2.2 "(1) Zoey2 is Al: a knight\nis: Knave2, KNAVE".toList
  have member := (told.2.2.1 "is" .knave).mpr (by decide_cbv)
  exact ⟨member, told.2.2.2 _ member⟩

end PuzzlePrep

import Mathlib
import Mathlib.Data.Set.Subsingleton
import PuzzlePrep.Proofs.Answer.Influence
import PuzzlePrep.Proofs.Answer.Scan

namespace PuzzlePrep

open Text

def differences (expected other : Identities) : Nat :=
  (expected.zip other).countP fun (e, o) => e.2 != o.2

section Differences

variable {expected other : Identities}

theorem differences_cons (e o : String × Role) (expected other : Identities) :
    differences (e :: expected) (o :: other) =
      differences expected other + if e.2 ≠ o.2 then 1 else 0 := by
  simp [differences, List.countP_cons]

theorem differences_comm (expected other : Identities) :
    differences expected other = differences other expected := by
  induction expected generalizing other with
  | nil => simp [differences]
  | cons e expected ih =>
    cases other with
    | nil => rfl
    | cons o other => simp only [differences_cons, ih, ne_comm]

theorem agreements_add_differences (same : expected.length = other.length) :
    Reward.agreements expected other + differences expected other = expected.length := by
  have whole : (expected.zip other).length = expected.length := by simp [same]
  rw [← whole, Reward.agreements, differences, List.length_eq_countP_add_countP fun (e, o) =>
    e.2 == o.2]
  congr 1
  exact List.countP_congr fun pair _ => by simp

theorem differences_eq_zero_iff (names : expected.map Prod.fst = other.map Prod.fst) :
    differences expected other = 0 ↔ expected = other := by
  induction expected generalizing other with
  | nil =>
    have empty : other = [] := List.map_eq_nil_iff.mp names.symm
    simp [empty, differences]
  | cons e expected ih =>
    cases other with
    | nil => simp at names
    | cons o other =>
      obtain ⟨name, names⟩ := List.cons.inj names
      rw [differences_cons, Nat.add_eq_zero_iff, ih names, List.cons.injEq, Prod.ext_iff, and_comm]
      simp [name]

end Differences

section Stated

variable {expected stated : Identities} {text : List Char}

theorem names_of_statedIdentities? {names : List String}
    (read : statedIdentities? text names = some stated) : stated.map Prod.fst = names := by
  induction names generalizing stated with
  | nil =>
    cases read
    rfl
  | cons name names ih =>
    rw [statedIdentities?_cons] at read
    obtain ⟨role, -, found⟩ := Option.bind_eq_some_iff.mp read
    obtain ⟨others, rest, rfl⟩ := Option.map_eq_some_iff.mp found
    rw [List.map_cons, ih rest]

theorem rightRoles_add_differences (names : ∀ x ∈ expected, IsName x.1.toList)
    (read : statedIdentities? text (expected.map Prod.fst) = some stated) :
    rightRoles expected text + differences expected stated = expected.length := by
  have length : expected.length = stated.length := by
    simpa using (congrArg List.length (names_of_statedIdentities? read)).symm
  rw [← agreements_eq_rightRoles names read]
  exact agreements_add_differences length

end Stated

def worthOfWrong (wrong all : Nat) : Points :=
  if wrong = 0 then 3 else if wrong < all then 0 else Points.lessHalf 0

theorem worthOfWrong_eq_three_iff {wrong all : Nat} : worthOfWrong wrong all = 3 ↔ wrong = 0 := by
  rw [worthOfWrong]
  by_cases none : wrong = 0
  · simp [none]
  · rw [if_neg none]
    split <;> exact iff_of_false (by decide) none

section Response

variable {truth truth' response block : List Char} {stated : Identities}

theorem total_of_stated (some : trueIdentities truth ≠ []) (tagged : TagsOnce response)
    (isBlock : IsBlock response block)
    (read : statedIdentities? (answerText block) ((trueIdentities truth).map Prod.fst) =
      Option.some stated) :
    (Reward.of response truth).total =
      worthOfWrong (differences (trueIdentities truth) stated) (trueIdentities truth).length := by
  have names := isName_of_trueIdentities truth
  have all := (statesAll_iff_statedIdentities? names).mpr ⟨stated, read⟩
  have apart := rightRoles_add_differences names read
  rw [reward_of_stated some tagged isBlock all, worthOfWrong]
  dsimp only
  by_cases same : differences (trueIdentities truth) stated = 0
  · rw [if_pos same, if_pos (by omega)]
  · rw [if_neg same, if_neg (by omega)]
    by_cases less : differences (trueIdentities truth) stated < (trueIdentities truth).length
    · rw [if_pos less, if_pos (by omega)]
    · rw [if_neg less, if_neg (by omega)]

theorem exists_stated (worth : (Reward.of response truth).total ∈ [3, 0, Points.lessHalf 0]) :
    trueIdentities truth ≠ [] ∧ TagsOnce response ∧ ∃ block, IsBlock response block ∧
      ∃ stated, statedIdentities? (answerText block) ((trueIdentities truth).map Prod.fst) =
        some stated := by
  have some : trueIdentities truth ≠ [] := by
    intro none
    rw [reward_of_no_truth none] at worth
    exact absurd worth (by decide)
  have names := isName_of_trueIdentities truth
  refine ⟨some, ?_⟩
  obtain ⟨row, holds⟩ := RewardRow.exists_holds some response
  rw [RewardRow.total_of_holds some row holds] at worth
  cases row with
  | allRight =>
    obtain ⟨tagged, -, block, isBlock, right⟩ := holds
    exact ⟨tagged, block, isBlock, (statesAll_iff_statedIdentities? names).mp
      fun x member => (right x member).saysOf⟩
  | someRight =>
    obtain ⟨tagged, block, isBlock, all, -⟩ := holds
    exact ⟨tagged, block, isBlock, (statesAll_iff_statedIdentities? names).mp all⟩
  | noneRight =>
    obtain ⟨tagged, block, isBlock, all, -⟩ := holds
    exact ⟨tagged, block, isBlock, (statesAll_iff_statedIdentities? names).mp all⟩
  | unanswered => exact absurd worth (by decide)
  | badTags => exact absurd worth (by decide)

theorem total_eq_three_iff : (Reward.of response truth).total = 3 ↔
    trueIdentities truth ≠ [] ∧ TagsOnce response ∧ ∃ block, IsBlock response block ∧
      statedIdentities? (answerText block) ((trueIdentities truth).map Prod.fst) =
        some (trueIdentities truth) := by
  constructor
  · intro full
    obtain ⟨some, tagged, block, isBlock, stated, read⟩ := exists_stated (by rw [full]; decide)
    refine ⟨some, tagged, block, isBlock, ?_⟩
    have total := total_of_stated some tagged isBlock read
    have names : (trueIdentities truth).map Prod.fst = stated.map Prod.fst :=
      (names_of_statedIdentities? read).symm
    rw [full, eq_comm, worthOfWrong_eq_three_iff, differences_eq_zero_iff names] at total
    rw [read, total]
  · rintro ⟨some, tagged, block, isBlock, read⟩
    rw [total_of_stated some tagged isBlock read, worthOfWrong_eq_three_iff]
    exact (differences_eq_zero_iff rfl).mpr rfl

theorem total_of_other_roles
    (names : (trueIdentities truth).map Prod.fst = (trueIdentities truth').map Prod.fst)
    (full : (Reward.of response truth).total = 3) :
    (Reward.of response truth').total = worthOfWrong
      (differences (trueIdentities truth) (trueIdentities truth')) (trueIdentities truth).length := by
  obtain ⟨some, tagged, block, isBlock, read⟩ := total_eq_three_iff.mp full
  have length : (trueIdentities truth).length = (trueIdentities truth').length := by
    simpa using congrArg List.length names
  have some' : trueIdentities truth' ≠ [] := by
    rw [← List.length_pos_iff] at some ⊢
    omega
  rw [names] at read
  rw [total_of_stated some' tagged isBlock read, length, differences_comm]

end Response

def identityLine (x : String × Role) : List Char := x.1.toList ++ ([' '] ++ x.2.word)

section Truth

variable {x : String × Role} {expected : Identities}

theorem trim_identityLine (isName : IsName x.1.toList) : trim (identityLine x) = identityLine x :=
  trim_name_role isName [' '] x.2

theorem identityOf?_identityLine (isName : IsName x.1.toList) :
    identityOf? (trim (identityLine x)) = some x := by
  have found : nameWord? false (identityLine x) = some (x.1.toList, [' '] ++ x.2.word) :=
    nameWord?_name isName rfl
  have blank : Blanks [' '] := ⟨by decide, List.all_eq_true.mp (by decide)⟩
  have told : roleWord? true ([' '] ++ x.2.word) = some x.2 := by
    rw [roleWord?_pad blank.1 blank.not_isWord, ← List.append_nil x.2.word]
    exact roleWord?_of_role (SameText.refl _) rfl
  rw [trim_identityLine isName]
  simp only [identityOf?, Option.bind_eq_bind, found, told, Option.bind_some, String.ofList_toList]
  rfl

theorem not_newline_mem_identityLine (isName : IsName x.1.toList) : '\n' ∉ identityLine x := by
  obtain ⟨name, role⟩ := x
  simp only [identityLine, List.mem_append, not_or]
  refine ⟨fun inside => ?_, by decide, by cases role <;> decide⟩
  exact absurd (isName.2 _ inside) (by decide)

theorem filterMap_identityLine (names : ∀ x ∈ expected, IsName x.1.toList) :
    (expected.map identityLine).filterMap (identityOf? <| trim ·) = expected := by
  induction expected with
  | nil => rfl
  | cons x expected ih =>
    obtain ⟨head, tail⟩ := List.forall_mem_cons.mp names
    rw [List.map_cons, List.filterMap_cons, identityOf?_identityLine head, ih tail]

theorem exists_truth (names : ∀ x ∈ expected, IsName x.1.toList)
    (apart : (expected.map Prod.fst).Nodup) : ∃ truth, trueIdentities truth = expected := by
  -- Two empty lines in front make the text one of several lines, which is read as it stands.
  have told : ([] :: [] :: expected.map identityLine).filterMap (identityOf? <| trim ·) = expected :=
    filterMap_identityLine names
  refine ⟨join ['\n'] ([] :: [] :: expected.map identityLine), ?_⟩
  rw [trueIdentities_join (by simp) ?_ (tellApart_iff.mpr (by rwa [told])), told]
  intro line member
  rcases List.mem_cons.mp member with rfl | member
  · simp
  rcases List.mem_cons.mp member with rfl | member
  · simp
  obtain ⟨x, inside, rfl⟩ := List.mem_map.mp member
  exact not_newline_mem_identityLine (names x inside)

theorem exists_truth_of_names {truth : List Char}
    (same : expected.map Prod.fst = (trueIdentities truth).map Prod.fst) :
    ∃ truth', trueIdentities truth' = expected := by
  apply exists_truth
  · intro x member
    have inside : x.1 ∈ (trueIdentities truth).map Prod.fst := same ▸ List.mem_map_of_mem member
    obtain ⟨y, member', name⟩ := List.mem_map.mp inside
    exact name ▸ isName_of_trueIdentities truth y member'
  · exact same ▸ nodup_names_trueIdentities truth

end Truth

def FullyRight (response : List Char) (expected : Identities) : Prop :=
  ∃ truth, trueIdentities truth = expected ∧ (Reward.of response truth).total = 3

section Assignment

variable {response : List Char}

theorem FullyRight.unique {expected expected' : Identities} (full : FullyRight response expected)
    (full' : FullyRight response expected')
    (names : expected.map Prod.fst = expected'.map Prod.fst) : expected = expected' := by
  obtain ⟨truth, rfl, full⟩ := full
  obtain ⟨truth', rfl, full'⟩ := full'
  have total := total_of_other_roles names full
  rw [full', eq_comm, worthOfWrong_eq_three_iff] at total
  exact (differences_eq_zero_iff names).mp total

theorem exists_fullyRight {truth : List Char}
    (worth : (Reward.of response truth).total ∈ [3, 0, Points.lessHalf 0]) :
    ∃ expected, expected.map Prod.fst = (trueIdentities truth).map Prod.fst ∧
      FullyRight response expected := by
  obtain ⟨some, tagged, block, isBlock, stated, read⟩ := exists_stated worth
  have names := names_of_statedIdentities? read
  obtain ⟨truth', parse⟩ := exists_truth_of_names names
  refine ⟨stated, names, truth', parse, total_eq_three_iff.mpr ⟨?_, tagged, block, isBlock, ?_⟩⟩
  · rw [parse]
    rintro rfl
    exact some (List.map_eq_nil_iff.mp names.symm)
  · rw [parse, names, read]

/-- A response is fully right for at most one assignment of roles to the same names, all of which are
those of some ground truth, and for exactly one if it states all names. Against the others it is
worth the less the more roles differ from that one. -/
theorem reward_of_one_assignment (response : List Char) :
    (∀ truth truth' d,
      (trueIdentities truth).map Prod.fst = (trueIdentities truth').map Prod.fst →
      differences (trueIdentities truth) (trueIdentities truth') = d → 1 ≤ d →
      (Reward.of response truth).total = 3 →
      (d < (trueIdentities truth).length → (Reward.of response truth').total = 0) ∧
      (d = (trueIdentities truth).length →
        (Reward.of response truth').total = Points.lessHalf 0)) ∧
    (∀ truth expected, expected.map Prod.fst = (trueIdentities truth).map Prod.fst →
      ∃ truth', trueIdentities truth' = expected) ∧
    (∀ names : List String,
      {expected : Identities | expected.map Prod.fst = names ∧
        FullyRight response expected}.Subsingleton) ∧
    (∀ truth, (Reward.of response truth).total ∈ [3, 0, Points.lessHalf 0] →
      ∃! expected : Identities, expected.map Prod.fst = (trueIdentities truth).map Prod.fst ∧
        FullyRight response expected) := by
  refine ⟨?_, fun truth expected same => exists_truth_of_names same, ?_, ?_⟩
  · rintro truth truth' d names rfl some full
    have total := total_of_other_roles names full
    rw [worthOfWrong, if_neg (by omega)] at total
    refine ⟨fun less => by rw [total, if_pos less], fun all => by rw [total, if_neg (by omega)]⟩
  · rintro names expected ⟨same, full⟩ expected' ⟨same', full'⟩
    exact full.unique full' (same.trans same'.symm)
  · intro truth worth
    obtain ⟨expected, names, full⟩ := exists_fullyRight worth
    refine ⟨expected, ⟨names, full⟩, ?_⟩
    rintro expected' ⟨names', full'⟩
    exact full'.unique full (names'.trans names.symm)

/-- A response that takes back what it says of one character, against a truth that gives the other a
different role. -/
theorem reward_of_one_assignment_of_two :
    (Reward.of "<think></think><answer>Al is a knight. Ed is a knave. Al is a knave</answer>".toList
      "Al is a knight\nEd is a knight".toList).total = 0 :=
  ((reward_of_one_assignment _).1 "Al is a knight\nEd is a knave".toList
    "Al is a knight\nEd is a knight".toList 1 (by decide_cbv) (by decide_cbv) (by decide)
    (by decide_cbv)).1 (by decide_cbv)

end Assignment

end PuzzlePrep

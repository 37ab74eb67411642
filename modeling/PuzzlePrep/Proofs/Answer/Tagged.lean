import Mathlib.Data.List.Count
import Mathlib.Data.List.Perm.Basic
import PuzzlePrep.Proofs.Answer.Block
import PuzzlePrep.Proofs.Text.Border
import PuzzlePrep.Proofs.Text.Erase

namespace PuzzlePrep

open Text

def TagFree (cs : List Char) : Prop := ∀ t : Tag, ¬ Occurs t.text cs

instance : DecidablePred TagFree := fun cs =>
  decidable_of_iff (∀ t ∈ Tag.all, ¬ Occurs t.text cs)
    ⟨fun free t => free t t.mem_all, fun free t _ => free t⟩

namespace Tag

theorem text_append_inj {t u : Tag} {rest rest' : List Char}
    (same : t.text ++ rest = u.text ++ rest') : t = u ∧ rest = rest' := by
  cases t <;> cases u <;> simp_all [text]

theorem countOf_text_append (t u : Tag) (rest : List Char) :
    countOf t.text (u.text ++ rest) = (if t = u then 1 else 0) + countOf t.text rest := by
  cases t <;> cases u <;> simp [countOf, startsWith, after?, text]

/-- A tag is counted before another one, where that one stands and behind it. -/
theorem countOf_append (t u : Tag) (front rest : List Char) :
    countOf t.text (front ++ u.text ++ rest) =
      countOf t.text front + (if t = u then 1 else 0) + countOf t.text rest := by
  have here := countOf_text_append t u rest
  obtain ⟨more, begins⟩ := u.exists_text
  rw [begins, List.cons_append] at here
  rw [begins, List.append_assoc, List.cons_append,
    countOf_append_cons t.text_ne_nil t.not_mem_tail_text, here]
  omega

theorem occurs_normalizeNewlines_iff (t : Tag) (cs : List Char) :
    Occurs t.text (normalizeNewlines cs) ↔ Occurs t.text cs := by
  refine Text.occurs_normalizeNewlines_iff t.text_ne_nil ?_ ?_ ?_ cs
  all_goals cases t <;> decide

end Tag

theorem tagFree_iff {cs : List Char} : TagFree cs ↔ ∀ t : Tag, countOf t.text cs = 0 := by
  simp [TagFree, countOf_eq_zero_iff (Tag.text_ne_nil _)]

theorem tagFree_nil : TagFree [] := fun t => not_occurs_nil t.text_ne_nil

/-- A text cut at tags: what stands before the first one, and every tag with what stands behind it. -/
structure TagCut where
  first : List Char
  parts : List (Tag × List Char)

namespace TagCut

def text (cut : TagCut) : List Char :=
  cut.first ++ cut.parts.flatMap fun (t, piece) => t.text ++ piece

def tags (cut : TagCut) : List Tag := cut.parts.map Prod.fst

structure Proper (cut : TagCut) : Prop where
  first : TagFree cut.first
  pieces : ∀ part ∈ cut.parts, TagFree part.2

theorem text_cons (first piece : List Char) (t : Tag) (parts : List (Tag × List Char)) :
    text ⟨first, (t, piece) :: parts⟩ = first ++ t.text ++ text ⟨piece, parts⟩ := by
  simp [text]

theorem Proper.tail {first piece : List Char} {t : Tag} {parts : List (Tag × List Char)}
    (proper : Proper ⟨first, (t, piece) :: parts⟩) : Proper ⟨piece, parts⟩ :=
  ⟨proper.pieces (t, piece) List.mem_cons_self,
    fun part member => proper.pieces part (List.mem_cons_of_mem _ member)⟩

theorem countOf_text {cut : TagCut} (proper : cut.Proper) (t : Tag) :
    countOf t.text cut.text = cut.tags.count t := by
  obtain ⟨first, parts⟩ := cut
  induction parts generalizing first with
  | nil => simpa [text, tags] using tagFree_iff.mp proper.first t
  | cons part parts ih =>
    obtain ⟨u, piece⟩ := part
    have behind := ih piece proper.tail
    have before := tagFree_iff.mp proper.first t
    simp only [tags, List.map_cons, List.count_cons, beq_iff_eq] at behind ⊢
    rw [text_cons, Tag.countOf_append, behind, before, Nat.zero_add, Nat.add_comm]
    simp only [eq_comm]

theorem wellTagged_iff_perm {cut : TagCut} (proper : cut.Proper) :
    wellTagged cut.text = true ↔ cut.tags.Perm Tag.all := by
  have once (t : Tag) : Tag.all.count t = 1 := by cases t <;> rfl
  simp only [wellTagged_iff, List.perm_iff_count, countOf_text proper, once]

theorem exists_proper (cs : List Char) : ∃ cut : TagCut, cut.Proper ∧ cut.text = cs := by
  induction length : cs.length using Nat.strongRecOn generalizing cs with
  | _ n ih =>
    subst length
    cases cs with
    | nil => exact ⟨⟨[], []⟩, ⟨tagFree_nil, nofun⟩, rfl⟩
    | cons c cs =>
      by_cases here : ∃ t : Tag, startsWith t.text (c :: cs) = true
      · obtain ⟨t, starts⟩ := here
        obtain ⟨rest, split⟩ := startsWith_iff.mp starts
        have positive := List.length_pos_iff.mpr t.text_ne_nil
        have shorter : rest.length < (c :: cs).length := by
          rw [split, List.length_append]
          omega
        obtain ⟨⟨first, parts⟩, proper, whole⟩ := ih _ shorter rest rfl
        refine ⟨⟨[], (t, first) :: parts⟩, ⟨tagFree_nil, ?_⟩, ?_⟩
        · exact List.forall_mem_cons.mpr ⟨proper.first, proper.pieces⟩
        · rw [text_cons, whole, split, List.nil_append]
      · obtain ⟨⟨first, parts⟩, proper, rfl⟩ := ih cs.length (Nat.lt_succ_self _) cs rfl
        refine ⟨⟨c :: first, parts⟩, ⟨fun t occurs => ?_, proper.pieces⟩, rfl⟩
        -- A tag at the front of the first piece would stand at the front of the text.
        rcases occurs_cons_iff.mp occurs with starts | later
        · obtain ⟨rest, split⟩ := startsWith_iff.mp starts
          refine here ⟨t, startsWith_iff.mpr ⟨rest ++ parts.flatMap fun (t, p) => t.text ++ p, ?_⟩⟩
          rw [← List.append_assoc, ← split]
          rfl
        · exact proper.first t later

section Unique

variable {front front' gap rest rest' : List Char} {t u : Tag}

theorem gap_eq_nil (free : TagFree gap)
    (same : t.text ++ rest = gap ++ (u.text ++ rest')) : gap = [] := by
  by_contra some
  obtain ⟨more, begins⟩ := u.exists_text
  have starts : startsWith t.text (gap ++ '<' :: (more ++ rest')) = true :=
    startsWith_iff.mpr ⟨rest, by simp [same, begins]⟩
  rw [startsWith_append_cons t.not_mem_tail_text some] at starts
  obtain ⟨tail, split⟩ := startsWith_iff.mp starts
  exact free t ⟨[], tail, split⟩

theorem first_unique (free : TagFree front) (free' : TagFree front')
    (same : front ++ t.text ++ rest = front' ++ u.text ++ rest') :
    front = front' ∧ t = u ∧ rest = rest' := by
  simp only [List.append_assoc] at same
  have equal : front = front' := by
    rcases List.append_eq_append_iff.mp same with ⟨gap, split, behind⟩ | ⟨gap, split, behind⟩
    · have gapFree : TagFree gap := fun t occurs => free' t (split ▸ occurs.append_left front)
      rw [split, gap_eq_nil gapFree behind, List.append_nil]
    · have gapFree : TagFree gap := fun t occurs => free t (split ▸ occurs.append_left front')
      rw [split, gap_eq_nil gapFree behind, List.append_nil]
  subst equal
  exact ⟨rfl, Tag.text_append_inj (List.append_cancel_left same)⟩

theorem not_tagFree_append (front rest : List Char) (t : Tag) :
    ¬ TagFree (front ++ t.text ++ rest) := fun free => free t ⟨front, rest, rfl⟩

theorem Proper.unique {cut cut' : TagCut} (proper : cut.Proper) (proper' : cut'.Proper)
    (same : cut.text = cut'.text) : cut = cut' := by
  obtain ⟨first, parts⟩ := cut
  obtain ⟨first', parts'⟩ := cut'
  induction parts generalizing first first' parts' with
  | nil =>
    cases parts' with
    | nil => simpa [text] using same
    | cons part' parts' =>
      have free := proper.first
      simp only [text, List.flatMap_nil, List.append_nil, List.flatMap_cons] at same
      rw [same, ← List.append_assoc, ← List.append_assoc, List.append_assoc _ part'.2] at free
      exact absurd free (not_tagFree_append _ _ _)
  | cons part parts ih =>
    cases parts' with
    | nil =>
      have free := proper'.first
      simp only [text, List.flatMap_nil, List.append_nil, List.flatMap_cons] at same
      rw [← same, ← List.append_assoc, ← List.append_assoc, List.append_assoc _ part.2] at free
      exact absurd free (not_tagFree_append _ _ _)
    | cons part' parts' =>
      obtain ⟨t, piece⟩ := part
      obtain ⟨u, piece'⟩ := part'
      rw [text_cons, text_cons] at same
      obtain ⟨rfl, rfl, behind⟩ := first_unique proper.first proper'.first same
      have later := ih piece proper.tail piece' parts' proper'.tail behind
      simp_all

end Unique

end TagCut

section Order

def placeOf (cs : List Char) (t : Tag) : Nat := (indexOf? t.text cs).getD 0

theorem increasing_iff {places : List Nat} :
    increasing places = true ↔ places.Pairwise (· < ·) := by
  induction places with
  | nil => simp [increasing]
  | cons a places ih =>
    cases places with
    | nil => simp [increasing]
    | cons b places =>
      rw [increasing, Bool.and_eq_true, decide_eq_true_iff, ih, List.pairwise_cons (a := a)]
      refine and_congr_left fun ordered => ?_
      rw [List.forall_mem_cons]
      refine ⟨fun less => ⟨less, fun c member => ?_⟩, fun h => h.1⟩
      exact Nat.lt_trans less (List.rel_of_pairwise_cons ordered member)

variable {cs before rest : List Char} {t : Tag}

theorem indexOf?_of_once (once : countOf t.text cs = 1) (split : cs = before ++ t.text ++ rest) :
    indexOf? t.text cs = some before.length := by
  rw [indexOf?_eq_map_cutAt?, cutAt?_of_countOf_eq_one t.text_ne_nil once split]
  rfl

theorem inGoodOrder_iff_placeOf : inGoodOrder cs = true ↔
    wellTagged cs = true ∧ Tag.all.Pairwise fun t u => placeOf cs t < placeOf cs u := by
  rw [inGoodOrder, Bool.and_eq_true]
  refine and_congr_right fun tagged => ?_
  have places : tagPlaces cs = Tag.all.map (placeOf cs) := by
    have found (t : Tag) : indexOf? t.text cs = some (placeOf cs t) := by
      obtain ⟨before, ⟨rest, split⟩, -⟩ :=
        (countOf_eq_one_iff t.text_ne_nil).mp (wellTagged_iff.mp tagged t)
      rw [placeOf, indexOf?_of_once (wellTagged_iff.mp tagged t) split]
      rfl
    simp [tagPlaces, found]
  rw [places, increasing_iff, List.pairwise_map]

namespace TagCut

/-- The tags of a cut stand one behind the other. -/
theorem placeOf_tags {cut : TagCut} (tagged : wellTagged cut.text = true) :
    cut.tags.Pairwise (fun t u => placeOf cut.text t < placeOf cut.text u) ∧
      ∀ t ∈ cut.tags, cut.first.length ≤ placeOf cut.text t := by
  obtain ⟨first, parts⟩ := cut
  -- The induction is on the tags left; what stands before them grows, and the whole stays.
  induction parts generalizing first with
  | nil => simp [tags]
  | cons part parts ih =>
    obtain ⟨u, piece⟩ := part
    have whole : text ⟨first, (u, piece) :: parts⟩ = text ⟨first ++ u.text ++ piece, parts⟩ := by
      simp [text]
    have here : placeOf (text ⟨first, (u, piece) :: parts⟩) u = first.length := by
      rw [placeOf, indexOf?_of_once (wellTagged_iff.mp tagged u) (text_cons first piece u parts)]
      rfl
    obtain ⟨ordered, later⟩ := ih (first ++ u.text ++ piece) (whole ▸ tagged)
    rw [← whole] at ordered later
    have positive := List.length_pos_iff.mpr u.text_ne_nil
    have behind : ∀ t ∈ parts.map Prod.fst,
        first.length < placeOf (text ⟨first, (u, piece) :: parts⟩) t := by
      intro t member
      have far := later t member
      simp only [List.length_append] at far
      omega
    simp only [tags, List.map_cons, List.pairwise_cons, List.forall_mem_cons, here]
    exact ⟨⟨behind, ordered⟩, Nat.le_refl _, fun t member => Nat.le_of_lt (behind t member)⟩

theorem inGoodOrder_iff_tags {cut : TagCut} (proper : cut.Proper) :
    inGoodOrder cut.text = true ↔ cut.tags = Tag.all := by
  rw [inGoodOrder_iff_placeOf]
  constructor
  · rintro ⟨tagged, ordered⟩
    refine List.Perm.eq_of_pairwise ?_ (placeOf_tags tagged).1 ordered
      ((wellTagged_iff_perm proper).mp tagged)
    intro t u _ _ less greater
    exact absurd less (Nat.lt_asymm greater)
  · intro same
    have tagged := (wellTagged_iff_perm proper).mpr (same ▸ List.Perm.refl _)
    exact ⟨tagged, same ▸ (placeOf_tags tagged).1⟩

end TagCut

end Order

/-- What a response in good order says before, between and behind its tags. -/
structure Sections where
  before : List Char
  reasoning : List Char
  between : List Char
  answer : List Char
  after : List Char

theorem wellTagged_of_inGoodOrder {cs : List Char} (ordered : inGoodOrder cs = true) :
    wellTagged cs = true := by
  rw [inGoodOrder, Bool.and_eq_true] at ordered
  exact ordered.1

namespace Sections

def text (s : Sections) : List Char :=
  s.before ++ Tag.think.text ++ s.reasoning ++ Tag.endThink.text ++ s.between ++
    Tag.answer.text ++ s.answer ++ Tag.endAnswer.text ++ s.after

def pieces (s : Sections) : List (List Char) :=
  [s.before, s.reasoning, s.between, s.answer, s.after]

def cut (s : Sections) : TagCut :=
  ⟨s.before, [(.think, s.reasoning), (.endThink, s.between), (.answer, s.answer),
    (.endAnswer, s.after)]⟩

theorem text_cut (s : Sections) : s.cut.text = s.text := by simp [cut, TagCut.text, text]

theorem proper_cut {s : Sections} : s.cut.Proper ↔ ∀ piece ∈ s.pieces, TagFree piece := by
  constructor
  · intro proper
    refine List.forall_mem_cons.mpr ⟨proper.first, fun piece member => ?_⟩
    obtain ⟨part, inside, rfl⟩ := List.mem_map.mp (show piece ∈ s.cut.parts.map Prod.snd from member)
    exact proper.pieces part inside
  · intro free
    refine ⟨free _ List.mem_cons_self, fun part member => free _ (List.mem_cons_of_mem _ ?_)⟩
    exact List.mem_map_of_mem (f := Prod.snd) member

theorem exists_of_tags {cut : TagCut} (all : cut.tags = Tag.all) : ∃ s : Sections, s.cut = cut := by
  obtain ⟨first, parts⟩ := cut
  simp only [TagCut.tags, Tag.all, List.map_eq_cons_iff, List.map_eq_nil_iff] at all
  obtain ⟨⟨_, b⟩, _, rfl, rfl, ⟨_, c⟩, _, rfl, rfl, ⟨_, d⟩, _, rfl, rfl, ⟨_, e⟩, _, rfl, rfl, rfl⟩ := all
  exact ⟨⟨first, b, c, d, e⟩, rfl⟩

theorem cut_injective {s s' : Sections} (same : s.cut = s'.cut) : s = s' := by
  cases s
  cases s'
  simp_all [cut]

theorem isBlock (s : Sections) : IsBlock s.text s.answer := ⟨_, _, rfl⟩

theorem tagFree_of_wellTagged {s : Sections} (tagged : wellTagged s.text = true) :
    ∀ piece ∈ s.pieces, TagFree piece := by
  -- One of each tag stands between the pieces, so none is left for the pieces.
  have none (t : Tag) : ∀ piece ∈ s.pieces, countOf t.text piece = 0 := by
    have once := wellTagged_iff.mp tagged t
    simp only [text, Tag.countOf_append] at once
    simp only [pieces, List.forall_mem_cons, List.not_mem_nil, false_imp_iff, implies_true,
      and_true]
    cases t <;> simp only [reduceCtorEq, if_true, if_false] at once <;> omega
  exact fun piece member => tagFree_iff.mpr fun t => none t piece member

theorem inGoodOrder_text_iff {s : Sections} :
    inGoodOrder s.text = true ↔ ∀ piece ∈ s.pieces, TagFree piece := by
  constructor
  · exact fun ordered => tagFree_of_wellTagged (wellTagged_of_inGoodOrder ordered)
  · intro free
    rw [← s.text_cut]
    exact (TagCut.inGoodOrder_iff_tags (proper_cut.mpr free)).mpr rfl

theorem firstAnswer?_text {s : Sections} (tagged : wellTagged s.text = true) :
    firstAnswer? s.text = some (trim s.answer) := by
  simp [firstAnswer?, answerBlocks_of_isBlock tagged s.isBlock]

end Sections

theorem inGoodOrder_iff_exists_sections {cs : List Char} : inGoodOrder cs = true ↔
    ∃ s : Sections, (∀ piece ∈ s.pieces, TagFree piece) ∧ s.text = cs := by
  constructor
  · intro ordered
    obtain ⟨cut, proper, rfl⟩ := TagCut.exists_proper cs
    obtain ⟨s, rfl⟩ := Sections.exists_of_tags ((TagCut.inGoodOrder_iff_tags proper).mp ordered)
    exact ⟨s, Sections.proper_cut.mp proper, s.text_cut.symm⟩
  · rintro ⟨s, free, rfl⟩
    exact Sections.inGoodOrder_text_iff.mpr free

/-- All tags once, but in another order. -/
theorem disordered_iff_exists_cut {cs : List Char} :
    wellTagged cs = true ∧ inGoodOrder cs = false ↔ ∃ cut : TagCut, cut.Proper ∧ cut.text = cs ∧
      cut.tags.Perm Tag.all ∧ cut.tags ≠ Tag.all := by
  simp only [← Bool.not_eq_true]
  constructor
  · rintro ⟨tagged, disordered⟩
    obtain ⟨cut, proper, rfl⟩ := TagCut.exists_proper cs
    rw [TagCut.inGoodOrder_iff_tags proper] at disordered
    exact ⟨cut, proper, rfl, (TagCut.wellTagged_iff_perm proper).mp tagged, disordered⟩
  · rintro ⟨cut, proper, rfl, perm, other⟩
    rw [TagCut.inGoodOrder_iff_tags proper]
    exact ⟨(TagCut.wellTagged_iff_perm proper).mpr perm, other⟩

/-- The grammar of responses in good order, and what is read of them. -/
theorem inGoodOrder_sections (cs : List Char) :
    (inGoodOrder cs = true ↔
      ∃ s : Sections, (∀ piece ∈ s.pieces, TagFree piece) ∧ s.text = cs) ∧
    (∀ s s' : Sections, (∀ piece ∈ s.pieces, TagFree piece) → (∀ piece ∈ s'.pieces, TagFree piece) →
      s.text = cs → s'.text = cs → s = s') ∧
    (∀ s : Sections, (∀ piece ∈ s.pieces, TagFree piece) → s.text = cs →
      wellTagged cs = true ∧ firstAnswer? cs = some (trim s.answer) ∧
        lastAnswer? cs = some (normalizeNewlines (trim s.answer))) ∧
    (wellTagged cs = true ∧ inGoodOrder cs = false ↔ ∃ cut : TagCut, cut.Proper ∧ cut.text = cs ∧
      cut.tags.Perm Tag.all ∧ cut.tags ≠ Tag.all) := by
  refine ⟨inGoodOrder_iff_exists_sections, ?_, ?_, disordered_iff_exists_cut⟩
  · rintro s s' free free' rfl same
    apply Sections.cut_injective
    apply (Sections.proper_cut.mpr free).unique (Sections.proper_cut.mpr free')
    rw [s.text_cut, s'.text_cut, same]
  · rintro s free rfl
    have tagged := wellTagged_of_inGoodOrder (Sections.inGoodOrder_text_iff.mpr free)
    refine ⟨tagged, Sections.firstAnswer?_text tagged, ?_⟩
    exact (lastAnswer?_of_wellTagged tagged _).mpr ⟨_, s.isBlock, rfl⟩

def brokenTags : Sections where
  before := "<<think".toList
  reasoning := "th</think".toList
  between := ">".toList
  answer := " Zoey\\nOliver </answer".toList
  after := "<".toList

theorem inGoodOrder_sections_of_broken_tags :
    brokenTags.text = ("<<think<think>th</think</think>><answer> Zoey\\nOliver </answer" ++
      "</answer><").toList ∧ (∀ piece ∈ brokenTags.pieces, TagFree piece) ∧
    inGoodOrder brokenTags.text = true ∧
    firstAnswer? brokenTags.text = some "Zoey\\nOliver </answer".toList ∧
    lastAnswer? brokenTags.text = some "Zoey\nOliver </answer".toList := by
  obtain ⟨ordered, -, read, -⟩ := inGoodOrder_sections brokenTags.text
  have free : ∀ piece ∈ brokenTags.pieces, TagFree piece := by decide +kernel
  obtain ⟨-, first, last⟩ := read brokenTags free rfl
  exact ⟨by decide +kernel, free, ordered.mpr ⟨brokenTags, free, rfl⟩,
    first.trans (by decide +kernel), last.trans (by decide +kernel)⟩

end PuzzlePrep

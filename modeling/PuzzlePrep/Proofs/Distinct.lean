import Mathlib.Data.List.Induction
import Mathlib.Data.List.Nodup

namespace PuzzlePrep

variable {α : Type} [BEq α] [LawfulBEq α]

theorem eraseDups_concat (l : List α) (a : α) :
    (l ++ [a]).eraseDups = if a ∈ l then l.eraseDups else l.eraseDups ++ [a] := by
  rw [List.eraseDups_append]
  by_cases known : a ∈ l
  · simp [List.removeAll, known]
  · simp [List.removeAll, known, List.eraseDups_cons]

theorem nodup_eraseDups (l : List α) : l.eraseDups.Nodup := by
  induction l using List.reverseRecOn with
  | nil => simp
  | append_singleton l a ih =>
    rw [eraseDups_concat]
    split
    · exact ih
    · rename_i fresh
      rw [← List.concat_eq_append]
      exact ih.concat (by simpa using fresh)

theorem eraseDups_of_nodup {l : List α} (distinct : l.Nodup) : l.eraseDups = l := by
  induction l using List.reverseRecOn with
  | nil => rfl
  | append_singleton l a ih =>
    rw [List.nodup_append] at distinct
    have fresh : a ∉ l := fun inside => distinct.2.2 a inside a (by simp) rfl
    rw [eraseDups_concat, if_neg fresh, ih distinct.1]

theorem eraseDups_filter (p : α → Bool) (l : List α) :
    (l.filter p).eraseDups = l.eraseDups.filter p := by
  induction l using List.reverseRecOn with
  | nil => rfl
  | append_singleton l a ih =>
    rw [List.filter_append, eraseDups_concat]
    cases kept : p a with
    | true =>
      have same : a ∈ l.filter p ↔ a ∈ l := by simp [kept]
      rw [List.filter_cons_of_pos kept, List.filter_nil, eraseDups_concat, ih]
      by_cases known : a ∈ l
      · rw [if_pos (same.mpr known), if_pos known]
      · rw [if_neg (mt same.mp known), if_neg known, List.filter_append,
          List.filter_cons_of_pos kept, List.filter_nil]
    | false =>
      have dropped : ¬ p a = true := by simp [kept]
      rw [List.filter_cons_of_neg dropped, List.filter_nil, List.append_nil, ih]
      split
      · rfl
      · rw [List.filter_append, List.filter_cons_of_neg dropped, List.filter_nil, List.append_nil]

theorem eraseDups_append_eraseDups (as bs : List α) :
    (as.eraseDups ++ bs.eraseDups).eraseDups = (as ++ bs).eraseDups := by
  have seen : bs.eraseDups.removeAll as.eraseDups = (bs.removeAll as).eraseDups := by
    rw [List.removeAll, List.removeAll, eraseDups_filter]
    refine List.filter_congr fun b _ => ?_
    rw [Bool.eq_iff_iff]
    simp
  rw [List.eraseDups_append, List.eraseDups_append, seen, eraseDups_of_nodup (nodup_eraseDups as),
    eraseDups_of_nodup (nodup_eraseDups _)]

end PuzzlePrep

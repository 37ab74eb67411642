import Mathlib.Data.List.Nodup
import Mathlib.Data.List.Perm.Basic
import Mathlib.Data.String.Basic
import PuzzlePrep.Json.Value

namespace PuzzlePrep.Json.Members

theorem insert_cons_lt {key k : String} (less : key < k) (value v : Json) (rest : Members) :
    insert key value ((k, v) :: rest) = (key, value) :: (k, v) :: rest := by
  rw [insert, if_pos less]

theorem insert_cons_self (key : String) (value v : Json) (rest : Members) :
    insert key value ((key, v) :: rest) = (key, value) :: rest := by
  rw [insert, if_neg (lt_irrefl key), if_pos rfl]

theorem insert_cons_gt {key k : String} (greater : k < key) (value v : Json) (rest : Members) :
    insert key value ((k, v) :: rest) = (k, v) :: insert key value rest := by
  rw [insert, if_neg (lt_asymm greater), if_neg greater.ne']

theorem insert_comm_of_lt {a b : String} (less : a < b) (x y : Json) (m : Members) :
    insert a x (insert b y m) = insert b y (insert a x m) := by
  induction m with
  | nil => simp only [insert, insert_cons_lt less, insert_cons_gt less]
  | cons first rest ih =>
    obtain ⟨k, v⟩ := first
    rcases lt_trichotomy b k with lower | rfl | higher
    · rw [insert_cons_lt lower, insert_cons_lt (less.trans lower), insert_cons_lt less,
        insert_cons_gt less, insert_cons_lt lower]
    · rw [insert_cons_self, insert_cons_lt less, insert_cons_lt less, insert_cons_gt less,
        insert_cons_self]
    · rw [insert_cons_gt higher]
      rcases lt_trichotomy a k with lower' | rfl | higher'
      · rw [insert_cons_lt lower', insert_cons_lt lower', insert_cons_gt less,
          insert_cons_gt higher]
      · rw [insert_cons_self, insert_cons_self, insert_cons_gt less]
      · rw [insert_cons_gt higher', insert_cons_gt higher', insert_cons_gt higher, ih]

theorem insert_comm {a b : String} (differ : a ≠ b) (x y : Json) (m : Members) :
    insert a x (insert b y m) = insert b y (insert a x m) := by
  rcases lt_or_gt_of_ne differ with less | greater
  · exact insert_comm_of_lt less x y m
  · exact (insert_comm_of_lt greater y x m).symm

theorem ofList_perm {pairs pairs' : List (String × Json)} (perm : pairs.Perm pairs')
    (keys : (pairs.map Prod.fst).Nodup) : ofList pairs = ofList pairs' := by
  refine perm.foldl_eq' ?_ []
  intro p inside q inside' m
  by_cases same : p.1 = q.1
  · have equal : p = q := List.inj_on_of_nodup_map keys inside inside' same
    rw [equal]
  · exact insert_comm (Ne.symm same) _ _ _

theorem mem_keys_insert {key k : String} {value : Json} {m : Members} :
    k ∈ (insert key value m).map Prod.fst ↔ k = key ∨ k ∈ m.map Prod.fst := by
  induction m with
  | nil => simp [insert]
  | cons first rest ih =>
    obtain ⟨k', v⟩ := first
    rcases lt_trichotomy key k' with less | rfl | greater
    · rw [insert_cons_lt less]
      simp
    · rw [insert_cons_self]
      simp
    · rw [insert_cons_gt greater, List.map_cons, List.mem_cons, ih, List.map_cons, List.mem_cons,
        or_left_comm]

theorem mem_keys_ofList {k : String} {pairs : List (String × Json)} :
    k ∈ (ofList pairs).map Prod.fst ↔ k ∈ pairs.map Prod.fst := by
  have step : ∀ m : Members, k ∈ (pairs.foldl (fun m p => insert p.1 p.2 m) m).map Prod.fst ↔
      k ∈ m.map Prod.fst ∨ k ∈ pairs.map Prod.fst := by
    induction pairs with
    | nil => simp
    | cons p pairs ih =>
      intro m
      rw [List.foldl_cons, ih, mem_keys_insert, List.map_cons, List.mem_cons, or_assoc,
        or_left_comm]
  exact (step []).trans (by simp)

theorem get?_cons (k : String) (j : Json) (row : Members) (key : String) :
    get? ((k, j) :: row) key = if k = key then some j else get? row key := by
  by_cases same : k = key <;> simp [get?, same]

theorem get?_map (change : String → Json → Json) (row : Members) (key : String) :
    get? (row.map fun (k, j) => (k, change k j)) key = (row.get? key).map (change key) := by
  induction row with
  | nil => rfl
  | cons first row ih =>
    rw [List.map_cons, get?_cons, get?_cons, ih]
    split
    · rename_i same
      rw [same, Option.map_some]
    · rfl

theorem get?_filter (keep : String → Bool) (row : Members) (key : String) :
    get? (row.filter fun m => keep m.1) key = if keep key then row.get? key else none := by
  induction row with
  | nil => simp [get?]
  | cons first row ih =>
    obtain ⟨k, j⟩ := first
    rw [List.filter_cons, get?_cons]
    by_cases same : k = key
    · subst same
      cases kept : keep k <;> simp [kept, ih, get?_cons]
    · cases kept : keep k <;> simp [same, ih, get?_cons]

theorem get?_of_not_mem {k : String} {m : Members} (missing : k ∉ m.map Prod.fst) :
    m.get? k = none := by
  rw [get?, Option.map_eq_none_iff, List.find?_eq_none]
  intro p inside same
  exact missing (List.mem_map.mpr ⟨p, inside, by simpa using same⟩)

theorem get?_insert_self (key : String) (value : Json) (m : Members) :
    (insert key value m).get? key = some value := by
  have here (rest : Members) : get? ((key, value) :: rest) key = some value := by
    rw [get?, List.find?_cons_of_pos (by simp)]
    rfl
  induction m with
  | nil => exact here []
  | cons first rest ih =>
    obtain ⟨k, v⟩ := first
    rcases lt_trichotomy key k with less | rfl | greater
    · rw [insert_cons_lt less]
      exact here _
    · rw [insert_cons_self]
      exact here _
    · rw [insert_cons_gt greater, get?, List.find?_cons_of_neg (by simpa using greater.ne)]
      exact ih

theorem insert_insert (key : String) (value value' : Json) (m : Members) :
    insert key value' (insert key value m) = insert key value' m := by
  induction m with
  | nil => rw [insert, insert_cons_self, insert]
  | cons first rest ih =>
    obtain ⟨k, v⟩ := first
    rcases lt_trichotomy key k with less | rfl | greater
    · rw [insert_cons_lt less, insert_cons_lt less, insert_cons_self]
    · rw [insert_cons_self, insert_cons_self, insert_cons_self]
    · rw [insert_cons_gt greater, insert_cons_gt greater, insert_cons_gt greater, ih]

theorem ofList_concat (pairs : List (String × Json)) (key : String) (value : Json) :
    ofList (pairs ++ [(key, value)]) = insert key value (ofList pairs) := by
  rw [ofList, List.foldl_append]
  rfl

theorem get?_ofList {pairs : List (String × Json)} (keys : (pairs.map Prod.fst).Nodup) {key : String}
    {value : Json} (member : (key, value) ∈ pairs) : (ofList pairs).get? key = some value := by
  obtain ⟨before, after, rfl⟩ := List.append_of_mem member
  have last : (before ++ (key, value) :: after).Perm (before ++ after ++ [(key, value)]) :=
    List.perm_middle.trans (List.perm_append_singleton _ _).symm
  rw [ofList_perm last keys, ofList_concat, get?_insert_self]

end PuzzlePrep.Json.Members

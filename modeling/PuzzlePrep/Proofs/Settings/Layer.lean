import Mathlib.Data.List.Nodup
import Mathlib.Data.String.Basic
import PuzzlePrep.Settings.Load

namespace PuzzlePrep.Setting

namespace Members

theorem get?_cons (key : String) (value : Setting) (rest : Members) (k : String) :
    get? ((key, value) :: rest) k = if k = key then some value else get? rest k := by
  unfold get?
  by_cases same : k = key
  · subst same
    simp
  · have other : (k == key) = false := by simpa using same
    simp [List.lookup_cons, other, same]

theorem get?_insert (key : String) (value : Setting) (m : Members) (k : String) :
    (m.insert key value).get? k = if k = key then some value else m.get? k := by
  induction m with
  | nil => rw [insert, get?_cons]
  | cons first rest ih =>
    obtain ⟨k', v⟩ := first
    unfold insert
    split
    · rw [get?_cons]
    · split
      · rename_i same
        subst same
        rw [get?_cons, get?_cons]
        split <;> rfl
      · rename_i other
        rw [get?_cons, get?_cons, ih]
        by_cases here : k = k'
        · subst here
          simp [Ne.symm other]
        · simp [here]

theorem mem_insert {key : String} {value : Setting} {m : Members} {e : String × Setting}
    (member : e ∈ m.insert key value) : e = (key, value) ∨ e ∈ m := by
  induction m with
  | nil => exact Or.inl (List.mem_singleton.mp member)
  | cons first rest ih =>
    obtain ⟨k, v⟩ := first
    unfold insert at member
    split at member
    · exact List.mem_cons.mp member
    · split at member
      · rcases List.mem_cons.mp member with new | old
        · exact Or.inl new
        · exact Or.inr (List.mem_cons_of_mem _ old)
      · rcases List.mem_cons.mp member with front | behind
        · exact Or.inr (front ▸ List.mem_cons_self)
        · rcases ih behind with new | old
          · exact Or.inl new
          · exact Or.inr (List.mem_cons_of_mem _ old)

def Sorted (m : Members) : Prop := (m.map Prod.fst).Pairwise (· < ·)

theorem sorted_insert {m : Members} (sorted : m.Sorted) (key : String) (value : Setting) :
    (m.insert key value).Sorted := by
  induction m with
  | nil => simp [insert, Sorted]
  | cons first rest ih =>
    obtain ⟨k, v⟩ := first
    obtain ⟨after, behind⟩ := List.pairwise_cons.mp sorted
    unfold insert
    split
    · rename_i less
      refine List.pairwise_cons.mpr ⟨?_, sorted⟩
      intro k' member
      rcases List.mem_cons.mp member with rfl | later
      · exact less
      · exact less.trans (after k' later)
    · rename_i notLess
      split
      · rename_i same
        subst same
        exact List.pairwise_cons.mpr ⟨after, behind⟩
      · rename_i other
        have greater : k < key := lt_of_le_of_ne (not_lt.mp notLess) (Ne.symm other)
        refine List.pairwise_cons.mpr ⟨?_, ih behind⟩
        intro k' member
        obtain ⟨e, found, rfl⟩ := List.mem_map.mp member
        rcases mem_insert found with rfl | old
        · exact greater
        · exact after e.1 (List.mem_map_of_mem old)

theorem Sorted.nodup {m : Members} (sorted : m.Sorted) : (m.map Prod.fst).Nodup :=
  sorted.imp fun less => less.ne

theorem get?_eq_none_of_not_mem {m : Members} {key : String} (absent : key ∉ m.map Prod.fst) :
    m.get? key = none := by
  rw [get?, List.lookup_eq_none_iff]
  intro e member
  have other : key ≠ e.1 := fun same => absent (same ▸ List.mem_map_of_mem member)
  simpa using other

theorem mem_of_get? {m : Members} {key : String} {value : Setting} (found : m.get? key = some value) :
    (key, value) ∈ m := by
  induction m with
  | nil => cases found
  | cons first rest ih =>
    obtain ⟨k, v⟩ := first
    rw [get?_cons] at found
    split at found
    · rename_i same
      subst same
      cases found
      exact List.mem_cons_self
    · exact List.mem_cons_of_mem _ (ih found)

end Members

inductive Ordered : Setting → Prop
  | value {j : Setting} (plain : ∀ m, j ≠ .table m) : Ordered j
  | table {m : Members} (sorted : m.Sorted) (each : ∀ e ∈ m, Ordered e.2) : Ordered (.table m)

section Ordered

variable {low high : Setting} {m below : Members} {key : String} {value : Setting}

theorem ordered_empty : Ordered (.table []) := .table List.Pairwise.nil nofun

theorem Ordered.sorted (ordered : Ordered (.table m)) : m.Sorted := by
  cases ordered with
  | value plain => exact absurd rfl (plain m)
  | table sorted => exact sorted

theorem Ordered.each (ordered : Ordered (.table m)) : ∀ e ∈ m, Ordered e.2 := by
  cases ordered with
  | value plain => exact absurd rfl (plain m)
  | table _ each => exact each

theorem Ordered.get? (ordered : Ordered (.table m)) (found : m.get? key = some value) :
    Ordered value := ordered.each _ (Members.mem_of_get? found)

theorem Ordered.insert (ordered : Ordered (.table m)) (new : Ordered value) (key : String) :
    Ordered (.table (m.insert key value)) := by
  refine .table (Members.sorted_insert ordered.sorted key value) ?_
  intro e member
  rcases Members.mem_insert member with rfl | old
  · exact new
  · exact ordered.each e old

theorem ordered_ofList {pairs : List (String × Setting)} (each : ∀ e ∈ pairs, Ordered e.2) :
    Ordered (.table (Members.ofList pairs)) := by
  unfold Members.ofList
  refine List.foldlRecOn (motive := fun m => Ordered (.table m)) pairs _ ordered_empty ?_
  intro m before e member
  exact before.insert (each e member) e.1

theorem ordered_nest {keys : List String} (ordered : Ordered value) : Ordered (nest keys value) := by
  induction keys with
  | nil => exact ordered
  | cons key keys ih =>
    refine .table (List.pairwise_singleton _ key) ?_
    intro e member
    obtain rfl := List.mem_singleton.mp member
    exact ih

theorem atop_table (below m : Members) : atop (.table below) (.table m) = .table (membersOver below m) := by
  rw [atop]

theorem atop_of_plain (plain : ∀ m, high ≠ .table m) : atop low high = high := by
  cases high with
  | table m => exact absurd rfl (plain m)
  | _ => rfl

theorem membersOver_cons (below : Members) (key : String) (value : Setting) (rest : Members) :
    membersOver below ((key, value) :: rest) =
      membersOver (below.insert key (((below.get? key).map fun low => atop low value).getD value))
        rest := by
  rw [membersOver]
  cases below.get? key <;> rfl

theorem ordered_membersOver (each : ∀ e ∈ m, ∀ low, Ordered low → Ordered (atop low e.2))
    (plain : ∀ e ∈ m, Ordered e.2) (ordered : Ordered (.table below)) :
    Ordered (.table (membersOver below m)) := by
  induction m generalizing below with
  | nil => exact ordered
  | cons e rest ih =>
    obtain ⟨key, value⟩ := e
    obtain ⟨here, later⟩ := List.forall_mem_cons.mp each
    obtain ⟨this, others⟩ := List.forall_mem_cons.mp plain
    rw [membersOver_cons]
    refine ih later others (ordered.insert ?_ key)
    cases found : below.get? key with
    | none => exact this
    | some low => exact here low (ordered.get? found)

theorem Ordered.atop (upper : Ordered high) (lower : Ordered low) : Ordered (atop low high) := by
  induction upper generalizing low with
  | value plain =>
    rw [atop_of_plain plain]
    exact .value plain
  | @table m sorted each ih =>
    cases low with
    | table below =>
      rw [atop_table]
      exact ordered_membersOver (fun e member low => ih e member) each lower
    | _ => exact .table sorted each

theorem get?_membersOver (nodup : (m.map Prod.fst).Nodup) (below : Members) (key : String) :
    (membersOver below m).get? key =
      match m.get? key with
      | some value => some (((below.get? key).map fun low => atop low value).getD value)
      | none => below.get? key := by
  induction m generalizing below with
  | nil => rfl
  | cons e rest ih =>
    obtain ⟨k, v⟩ := e
    obtain ⟨absent, nodup⟩ := List.nodup_cons.mp nodup
    rw [membersOver_cons, ih nodup, Members.get?_cons]
    by_cases same : key = k
    · subst same
      rw [Members.get?_eq_none_of_not_mem absent, if_pos rfl, Members.get?_insert, if_pos rfl]
    · rw [if_neg same, Members.get?_insert, if_neg same]

end Ordered

def at? : List String → Setting → Option Setting
  | [], j => some j
  | key :: more, .table m => (Members.get? m key).bind (at? more)
  | _ :: _, _ => none

theorem at?_key (m : Members) (key : String) (more : List String) :
    at? (key :: more) (table m) = (m.get? key).bind (at? more) := by rw [at?]

theorem at?_single (m : Members) (key : String) : at? [key] (table m) = m.get? key := by
  rw [at?_key]
  cases m.get? key <;> rfl

/-- Whether the way along the path leads through tables as far as it goes, and to no table at its
end. -/
def clear : List String → Setting → Bool
  | [], .table _ => false
  | [], _ => true
  | key :: more, .table m => (Members.get? m key).all (clear more)
  | _ :: _, _ => false

section Clear

variable {path : List String} {low high j : Setting}

theorem clear_nil : clear [] j = true ↔ ∀ m, j ≠ .table m := by
  cases j <;> simp [clear]

theorem clear_cons {key : String} {more : List String} :
    clear (key :: more) j = true ↔
      ∃ m : Members, j = .table m ∧ ∀ value, m.get? key = some value → clear more value = true := by
  cases j <;> simp [clear, Option.all_eq_true]

theorem clear_atop (tidy : Ordered high) (lower : clear path low) (upper : clear path high) :
    clear path (atop low high) ∧ at? path (atop low high) = (at? path high).or (at? path low) := by
  induction path generalizing low high with
  | nil =>
    rw [atop_of_plain (clear_nil.mp upper)]
    exact ⟨upper, rfl⟩
  | cons key more ih =>
    obtain ⟨below, rfl, beneath⟩ := clear_cons.mp lower
    obtain ⟨m, rfl, above⟩ := clear_cons.mp upper
    have found := get?_membersOver tidy.sorted.nodup below key
    rw [atop_table, at?_key, at?_key, at?_key, found, clear_cons]
    cases top : m.get? key with
    | none => exact ⟨⟨_, rfl, fun value here => beneath value (by rwa [found, top] at here)⟩, rfl⟩
    | some value =>
      cases bottom : below.get? key with
      | none =>
        refine ⟨⟨_, rfl, ?_⟩, ?_⟩
        · intro value' here
          rw [found, top, bottom] at here
          cases here
          exact above value top
        · simp
      | some low =>
        obtain ⟨whole, same⟩ := ih (tidy.get? top) (beneath low bottom) (above value top)
        refine ⟨⟨_, rfl, ?_⟩, same⟩
        intro value' here
        rw [found, top, bottom] at here
        cases here
        exact whole

theorem at?_stack {layers : List Setting} (proper : path ≠ [])
    (ordered : ∀ l ∈ layers, Ordered l) (way : ∀ l ∈ layers, clear path l) :
    clear path (Settings.stack layers) ∧
      at? path (Settings.stack layers) = layers.reverse.findSome? (at? path) := by
  have goesOn : ∀ low, clear path low → clear path (layers.foldl Setting.atop low) ∧
      at? path (layers.foldl Setting.atop low) =
        (layers.reverse.findSome? (at? path)).or (at? path low) := by
    induction layers with
    | nil => exact fun low here => ⟨here, rfl⟩
    | cons l layers ih =>
      intro low here
      obtain ⟨orderedHere, orderedLater⟩ := List.forall_mem_cons.mp ordered
      obtain ⟨wayHere, wayLater⟩ := List.forall_mem_cons.mp way
      obtain ⟨between, same⟩ := clear_atop orderedHere here wayHere
      obtain ⟨whole, found⟩ := ih orderedLater wayLater _ between
      refine ⟨whole, ?_⟩
      rw [List.foldl_cons, found, same, List.reverse_cons, List.findSome?_append, Option.or_assoc]
      simp
  obtain ⟨key, more, rfl⟩ := List.exists_cons_of_ne_nil proper
  obtain ⟨whole, found⟩ := goesOn (.table []) rfl
  refine ⟨whole, ?_⟩
  rw [Settings.stack, found]
  simp [at?, Members.get?]

theorem ordered_stack {layers : List Setting} (ordered : ∀ l ∈ layers, Ordered l) :
    Ordered (Settings.stack layers) := by
  unfold Settings.stack
  refine List.foldlRecOn (motive := Ordered) layers _ ordered_empty ?_
  intro low before l member
  exact (ordered l member).atop before

end Clear

end PuzzlePrep.Setting

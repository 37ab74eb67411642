import Mathlib.Data.List.Forall2

namespace PuzzlePrep

section Except

variable {ε α β : Type}

theorem ok_bind (a : α) (f : α → Except ε β) : Except.ok a >>= f = f a := rfl

theorem bind_eq_ok {x : Except ε α} {f : α → Except ε β} {b : β} :
    x >>= f = .ok b ↔ ∃ a, x = .ok a ∧ f a = .ok b := by
  cases x with
  | error e => exact ⟨nofun, fun ⟨_, h, _⟩ => nomatch h⟩
  | ok a => exact ⟨fun h => ⟨a, rfl, h⟩, fun ⟨_, rfl, h⟩ => h⟩

theorem map_eq_ok {x : Except ε α} {f : α → β} {b : β} :
    x.map f = .ok b ↔ ∃ a, x = .ok a ∧ f a = b := by
  cases x with
  | error e => exact ⟨nofun, fun ⟨_, h, _⟩ => nomatch h⟩
  | ok a =>
    refine ⟨fun h => ⟨a, rfl, Except.ok.inj h⟩, ?_⟩
    rintro ⟨a', same, rfl⟩
    cases same
    rfl

end Except

section Option

variable {α β γ : Type} {f : α → Option β}

theorem mapM_flatten (batches : List (List α)) :
    batches.flatten.mapM f = (batches.mapM (List.mapM f)).map List.flatten := by
  induction batches with
  | nil => rfl
  | cons b batches ih =>
    rw [List.flatten_cons, List.mapM_append, ih, List.mapM_cons]
    cases b.mapM f with
    | none => rfl
    | some here => cases batches.mapM (List.mapM f) <;> rfl

theorem mapM_eq_some_iff_of_each {R : α → β → Prop} {items : List α} {found : List β}
    (each : ∀ a ∈ items, ∀ b, f a = some b ↔ R a b) :
    items.mapM f = some found ↔ List.Forall₂ R items found := by
  induction items generalizing found with
  | nil =>
    rw [List.forall₂_nil_left_iff, List.mapM_nil]
    exact Option.some_inj.trans eq_comm
  | cons a items ih =>
    obtain ⟨head, tail⟩ := List.forall_mem_cons.mp each
    simp only [List.forall₂_cons_left_iff, List.mapM_cons, Option.bind_eq_bind,
      Option.bind_eq_some_iff, Option.pure_def, Option.some.injEq, head, ih tail]
    constructor
    · rintro ⟨b, here, more, later, rfl⟩
      exact ⟨b, more, here, later, rfl⟩
    · rintro ⟨b, more, here, later, rfl⟩
      exact ⟨b, here, more, later, rfl⟩

theorem mapM_eq_some_iff {items : List α} {found : List β} :
    items.mapM f = some found ↔ List.Forall₂ (fun a b => f a = some b) items found :=
  mapM_eq_some_iff_of_each fun _ _ _ => Iff.rfl

theorem mem_of_mapM {items : List α} {found : List β} (h : items.mapM f = some found) {b : β}
    (member : b ∈ found) : ∃ a ∈ items, f a = some b := by
  induction items generalizing found with
  | nil =>
    cases h
    cases member
  | cons a items ih =>
    simp only [List.mapM_cons, Option.bind_eq_bind, Option.bind_eq_some_iff, Option.pure_def,
      Option.some.injEq] at h
    obtain ⟨b', here, found', later, rfl⟩ := h
    rcases List.mem_cons.mp member with rfl | member
    · exact ⟨a, List.mem_cons_self, here⟩
    · obtain ⟨a', inside, found⟩ := ih later member
      exact ⟨a', List.mem_cons_of_mem _ inside, found⟩

theorem mapM_eq_map {items : List α} {g : α → β} (each : ∀ a ∈ items, f a = some (g a)) :
    items.mapM f = some (items.map g) := by
  induction items with
  | nil => rfl
  | cons a items ih =>
    rw [List.mapM_cons, each a List.mem_cons_self,
      ih fun b member => each b (List.mem_cons_of_mem _ member)]
    rfl

theorem mapM_self {items : List α} {f : α → Option α} (kept : ∀ a ∈ items, f a = some a) :
    items.mapM f = some items := by simpa using mapM_eq_map (g := id) kept

theorem mapM_mapIdx {items : List γ} {g : Nat → γ → α} {h : Nat → γ → β}
    (each : ∀ i, ∀ c ∈ items, f (g i c) = some (h i c)) :
    (items.mapIdx g).mapM f = some (items.mapIdx h) := by
  rw [List.mapIdx_eq_zipIdx_map, List.mapIdx_eq_zipIdx_map, List.mapM_map]
  exact mapM_eq_map fun x inside => each x.2 x.1 (List.fst_mem_of_mem_zipIdx inside)

theorem mapM_of_zip {items : List α} {found : List β} (length : found.length = items.length)
    (each : ∀ a b, (a, b) ∈ items.zip found → f a = some b) : items.mapM f = some found :=
  mapM_eq_some_iff.mpr (List.forall₂_iff_zip.mpr ⟨length.symm, fun inside => each _ _ inside⟩)

theorem mapM_bind (items : List α) (g : β → Option γ) :
    (items.mapM fun a => (f a).bind g) = (items.mapM f).bind (List.mapM g) := by
  induction items with
  | nil => rfl
  | cons a items ih =>
    rw [List.mapM_cons, List.mapM_cons, ih]
    cases f a with
    | none => rfl
    | some b =>
      cases items.mapM f with
      | none => cases here : g b <;> simp [here]
      | some found => simp

theorem mapM_map (items : List α) (g : β → γ) :
    (items.mapM fun a => (f a).map g) = (items.mapM f).map (List.map g) := by
  induction items with
  | nil => rfl
  | cons a items ih =>
    rw [List.mapM_cons, List.mapM_cons, ih]
    cases f a with
    | none => rfl
    | some b => cases items.mapM f <;> rfl

theorem mapM_zipIdx (items : List α) (g : Nat → β → γ) (first : Nat) :
    ((items.zipIdx first).mapM fun x => (f x.1).map (g x.2)) =
      (items.mapM f).map (List.mapIdx fun i => g (i + first)) := by
  induction items generalizing first with
  | nil => rfl
  | cons a items ih =>
    rw [List.zipIdx_cons, List.mapM_cons, List.mapM_cons, ih]
    dsimp only
    cases f a with
    | none => rfl
    | some b =>
      cases items.mapM f with
      | none => rfl
      | some found => simp [List.mapIdx_cons, Nat.add_assoc, Nat.add_comm first]

theorem mapM_congr {items : List α} {g : α → Option β} (same : ∀ a ∈ items, f a = g a) :
    items.mapM f = items.mapM g := by
  induction items with
  | nil => rfl
  | cons a items ih =>
    rw [List.mapM_cons, List.mapM_cons, same a List.mem_cons_self,
      ih fun b member => same b (List.mem_cons_of_mem _ member)]

theorem isSome_mapM_iff {items : List α} :
    (items.mapM f).isSome = true ↔ ∀ a ∈ items, (f a).isSome = true := by
  induction items with
  | nil => simp
  | cons a items ih =>
    rw [List.forall_mem_cons, ← ih, List.mapM_cons]
    cases f a with
    | none => simp
    | some b => cases items.mapM f <;> simp

theorem getElem?_of_mapM {items : List α} {found : List β} (h : items.mapM f = some found) (i : Nat) :
    found[i]? = items[i]?.bind f := by
  induction items generalizing found i with
  | nil =>
    cases h
    rfl
  | cons a items ih =>
    simp only [List.mapM_cons, Option.bind_eq_bind, Option.bind_eq_some_iff, Option.pure_def,
      Option.some.injEq] at h
    obtain ⟨b, here, rest, later, rfl⟩ := h
    cases i with
    | zero => simp [here]
    | succ i => simpa using ih later i

theorem length_of_mapM {items : List α} {found : List β} (h : items.mapM f = some found) :
    found.length = items.length := (mapM_eq_some_iff.mp h).length_eq.symm

end Option

end PuzzlePrep

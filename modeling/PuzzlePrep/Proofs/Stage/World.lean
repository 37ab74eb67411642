import Mathlib.Data.List.Forall2
import Mathlib.Data.List.Nodup
import PuzzlePrep.Layout
import PuzzlePrep.Proofs.Files.Disk
import PuzzlePrep.Stage.World

namespace PuzzlePrep

def stagedSplits (partitions : List Partition) : List (Partition × Split) :=
  partitions.flatMap fun p => Split.staged.map (p, ·)

theorem map_stagedSplits {α : Type} (g : Partition × Split → α) (partitions : List Partition) :
    (stagedSplits partitions).map g =
      partitions.flatMap fun p => Split.staged.map fun s => g (p, s) := by
  rw [stagedSplits, List.map_flatMap]
  simp only [List.map_map]
  rfl

theorem length_stagedSplits (partitions : List Partition) :
    (stagedSplits partitions).length = 2 * partitions.length := by
  induction partitions with
  | nil => rfl
  | cons p partitions ih =>
    rw [stagedSplits, List.flatMap_cons, List.length_append, ← stagedSplits, ih, List.length_cons,
      List.length_map]
    show 2 + _ = _
    omega

theorem nodup_stagedSplits {partitions : List Partition} (distinct : partitions.Nodup) :
    (stagedSplits partitions).Nodup := distinct.product (by decide : Split.staged.Nodup)

section Steps

variable {α β σ : Type} {f : α → ExceptT Failure (StateM σ) β} {xs : List α} {bs : List β}
  {s s' : σ}

theorem mapM_cons_run {g : α → StateM σ β} {x : α} : ((x :: xs).mapM g).run s = (bs, s') ↔
    ∃ b between rest, (g x).run s = (b, between) ∧ (xs.mapM g).run between = (rest, s') ∧
      bs = b :: rest := by
  rw [List.mapM_cons]
  rcases first : (g x).run s with ⟨b, between⟩
  rcases later : (xs.mapM g).run between with ⟨rest, after⟩
  have whole : (do return (← g x) :: (← xs.mapM g) : StateM σ (List β)).run s =
      (b :: rest, after) := by
    have steps {γ δ : Type} (m : StateM σ γ) (k : γ → StateM σ δ) (s : σ) :
        (m >>= k).run s = (k (m.run s).1).run (m.run s).2 := rfl
    rw [steps, first, steps]
    dsimp only
    rw [later]
    rfl
  rw [whole]
  constructor
  · intro h
    cases h
    exact ⟨b, between, rest, rfl, later, rfl⟩
  · rintro ⟨b', between', rest', same, later', rfl⟩
    cases same
    rw [later] at later'
    cases later'
    rfl

theorem run_bind {γ : Type} (m : ExceptT Failure (StateM σ) γ)
    (k : γ → ExceptT Failure (StateM σ) β) (s : σ) :
    (m >>= k).run.run s =
      match m.run.run s with
      | (.ok a, s') => (k a).run.run s'
      | (.error f, s') => (.error f, s') := by
  show ((ExceptT.bindCont k) (m.run.run s).1).run (m.run.run s).2 = _
  rcases m.run.run s with ⟨_ | _, _⟩ <;> rfl

theorem bind_run_ok {γ : Type} {m : ExceptT Failure (StateM σ) γ}
    {k : γ → ExceptT Failure (StateM σ) β} {b : β} : (m >>= k).run.run s = (.ok b, s') ↔
      ∃ a between, m.run.run s = (.ok a, between) ∧ (k a).run.run between = (.ok b, s') := by
  rw [run_bind]
  constructor
  · intro h
    rcases ran : m.run.run s with ⟨f | a, between⟩
    · rw [ran] at h
      cases h
    · rw [ran] at h
      exact ⟨a, between, rfl, h⟩
  · rintro ⟨a, between, ran, h⟩
    rw [ran]
    exact h

theorem mapM_cons_run_ok {x : α} :
    ((x :: xs).mapM f).run.run s = (.ok bs, s') ↔ ∃ b between rest,
      (f x).run.run s = (.ok b, between) ∧ (xs.mapM f).run.run between = (.ok rest, s') ∧
      bs = b :: rest := by
  rw [List.mapM_cons, bind_run_ok]
  refine exists_congr fun b => exists_congr fun between => ?_
  rw [bind_run_ok]
  constructor
  · rintro ⟨first, rest, after, later, h⟩
    cases h
    exact ⟨rest, first, later, rfl⟩
  · rintro ⟨rest, first, later, rfl⟩
    exact ⟨first, rest, s', later, rfl⟩

/-- Steps that keep an invariant, and each of which leaves what was brought about before it. -/
theorem mapM_ok_of_steps (holds : σ → Prop) (brought : α → β → σ → Prop) (stays : σ → σ → Prop)
    (refl : ∀ s, stays s s)
    (trans : ∀ {s s' s''}, stays s s' → stays s' s'' → stays s s'')
    (mono : ∀ {x b s s'}, brought x b s → stays s s' → brought x b s')
    (step : ∀ x ∈ xs, ∀ s b s', holds s → (f x).run.run s = (.ok b, s') →
      holds s' ∧ brought x b s' ∧ stays s s')
    (start : holds s) (h : (xs.mapM f).run.run s = (.ok bs, s')) :
    holds s' ∧ List.Forall₂ (fun x b => brought x b s') xs bs ∧ stays s s' := by
  induction xs generalizing s bs with
  | nil =>
    cases h
    exact ⟨start, .nil, refl _⟩
  | cons x xs ih =>
    obtain ⟨b, between, rest, first, later, rfl⟩ := mapM_cons_run_ok.mp h
    obtain ⟨kept, new, old⟩ := step x List.mem_cons_self _ _ _ start first
    -- What the first step brought about is left by all of the later ones.
    obtain ⟨kept', all, after⟩ :=
      ih (fun y member => step y (List.mem_cons_of_mem _ member)) kept later
    exact ⟨kept', .cons (mono new after) all, trans old after⟩

theorem mapM_ok_of_each (holds : σ → Prop)
    (each : List.Forall₂ (fun x b => ∀ s, holds s → ∃ s', (f x).run.run s = (.ok b, s') ∧ holds s')
      xs bs) (start : holds s) : ∃ s', (xs.mapM f).run.run s = (.ok bs, s') ∧ holds s' := by
  induction each generalizing s with
  | nil => exact ⟨s, rfl, start⟩
  | cons first _ ih =>
    obtain ⟨between, ran, kept⟩ := first s start
    obtain ⟨s', later, kept'⟩ := ih kept
    exact ⟨s', mapM_cons_run_ok.mpr ⟨_, between, _, ran, later, rfl⟩, kept'⟩

theorem forall₂_map {g : α → β} {holds : α → β → Prop} (each : ∀ x ∈ xs, holds x (g x)) :
    List.Forall₂ holds xs (xs.map g) :=
  List.forall₂_map_right_iff.mpr (List.forall₂_same.mpr each)

theorem eq_map_of_forall₂ {g : α → β} {holds : α → Prop}
    (each : List.Forall₂ (fun x b => b = g x ∧ holds x) xs bs) :
    bs = xs.map g ∧ ∀ x ∈ xs, holds x := by
  induction each with
  | nil => exact ⟨rfl, nofun⟩
  | cons first _ ih =>
    obtain ⟨rfl, here⟩ := first
    exact ⟨by rw [List.map_cons, ih.1], List.forall_mem_cons.mpr ⟨here, ih.2⟩⟩

theorem bind_keeps {γ : Type} (holds : σ → Prop) {m : ExceptT Failure (StateM σ) γ}
    {k : γ → ExceptT Failure (StateM σ) β} (first : holds (m.run.run s).2)
    (next : ∀ a s, holds s → holds ((k a).run.run s).2) : holds ((m >>= k).run.run s).2 := by
  rw [run_bind]
  rcases ran : m.run.run s with ⟨f | a, between⟩
  · rw [ran] at first
    exact first
  · rw [ran] at first
    exact next a between first

theorem mapM_keeps (holds : σ → Prop)
    (step : ∀ x ∈ xs, ∀ s, holds s → holds ((f x).run.run s).2) (start : holds s) :
    holds ((xs.mapM f).run.run s).2 := by
  induction xs generalizing s with
  | nil => exact start
  | cons x xs ih =>
    rw [List.mapM_cons]
    refine bind_keeps holds (step x List.mem_cons_self s start) fun b between kept => ?_
    exact bind_keeps holds (ih (fun y member => step y (List.mem_cons_of_mem _ member)) kept)
      fun _ _ kept => kept

end Steps

namespace Stage

variable {α β : Type} {w w' : World}

def on (s : Stage α) (w : World) : Except Failure α × World := s.run.run w

@[simp] theorem on_get (w : World) : (get : Stage World).on w = (.ok w, w) := rfl

@[simp] theorem on_modify (change : World → World) (w : World) :
    (modify change : Stage Unit).on w = (.ok (), change w) := rfl

@[simp] theorem on_tree (w : World) : tree.on w = (.ok w.tree, w) := rfl

@[simp] theorem on_monadLift (m : StateM World α) (w : World) :
    (liftM m : Stage α).on w = (.ok (m.run w).1, (m.run w).2) := rfl

theorem on_bind (s : Stage α) (k : α → Stage β) (w : World) :
    (s >>= k).on w =
      match s.on w with
      | (.ok a, w') => (k a).on w'
      | (.error f, w') => (.error f, w') := by
  have whole := run_bind s k w
  rcases ran : s.on w with ⟨f | a, w'⟩
  all_goals
    have ran' : s.run.run w = _ := ran
    rw [ran'] at whole
    exact whole

theorem bind_on_ok {s : Stage α} {k : α → Stage β} {b : β} : (s >>= k).on w = (.ok b, w') ↔
    ∃ a between, s.on w = (.ok a, between) ∧ (k a).on between = (.ok b, w') := bind_run_ok

theorem bind_on_error {s : Stage α} {k : α → Stage β} {f : Failure}
    (h : (s >>= k).on w = (.error f, w')) : s.on w = (.error f, w') ∨
      ∃ a between, s.on w = (.ok a, between) ∧ (k a).on between = (.error f, w') := by
  rw [on_bind] at h
  rcases ran : s.on w with ⟨g | a, between⟩
  · rw [ran] at h
    cases h
    exact Or.inl rfl
  · rw [ran] at h
    exact Or.inr ⟨a, between, rfl, h⟩

theorem on_onTree (d : Disk α) (w : World) :
    (onTree d).on w = ((d.on w.tree).1, { w with tree := (d.on w.tree).2 }) := by
  have ran : d.run.run w.tree = d.on w.tree := rfl
  rw [onTree, on_bind, on_get]
  dsimp only
  rw [ran]
  rcases d.on w.tree with ⟨f | a, t⟩ <;> rfl

theorem onTree_on_ok {d : Disk α} {a : α} : (onTree d).on w = (.ok a, w') ↔
    ∃ t, d.on w.tree = (.ok a, t) ∧ w' = { w with tree := t } := by
  rw [on_onTree]
  rcases d.on w.tree with ⟨f | b, t⟩
  · simp
  · constructor
    · intro h
      cases h
      exact ⟨t, rfl, rfl⟩
    · rintro ⟨t', same, rfl⟩
      cases same
      rfl

end Stage

end PuzzlePrep

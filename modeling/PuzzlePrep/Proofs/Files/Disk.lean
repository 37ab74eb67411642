import PuzzlePrep.Files.Disk
import PuzzlePrep.Proofs.Files.Walk

namespace PuzzlePrep

namespace Disk

variable {α β : Type} {t t' : Tree}

def on (d : Disk α) (t : Tree) : Except Failure α × Tree := d.run.run t

@[simp] theorem on_pure (a : α) (t : Tree) : (pure a : Disk α).on t = (.ok a, t) := rfl

@[simp] theorem on_throw (f : Failure) (t : Tree) :
    (throw f : Disk α).on t = (.error f, t) := rfl

@[simp] theorem on_refuse (f : Fault) (t : Tree) :
    (refuse f : Disk α).on t = (.error (.io f), t) := rfl

@[simp] theorem on_get (t : Tree) : (get : Disk Tree).on t = (.ok t, t) := rfl

@[simp] theorem on_modify (change : Tree → Tree) (t : Tree) :
    (modify change : Disk Unit).on t = (.ok (), change t) := rfl

theorem on_bind (d : Disk α) (k : α → Disk β) (t : Tree) :
    (d >>= k).on t =
      match d.on t with
      | (.ok a, t') => (k a).on t'
      | (.error f, t') => (.error f, t') := by
  show ((ExceptT.bindCont k) (d.on t).1).run (d.on t).2 = _
  rcases d.on t with ⟨_ | _, _⟩ <;> rfl

theorem on_tryCatch (d : Disk α) (k : Failure → Disk α) (t : Tree) :
    (tryCatch d k).on t =
      match d.on t with
      | (.ok a, t') => (.ok a, t')
      | (.error f, t') => (k f).on t' := by
  rcases ran : d.on t with ⟨_ | _, _⟩
  all_goals
    have ran' : StateT.run d t = _ := ran
    simp only [on, tryCatch, tryCatchThe, MonadExceptOf.tryCatch, ExceptT.tryCatch, ExceptT.run,
      ExceptT.mk, StateT.run_bind, ran']
    rfl

theorem bind_on_ok {d : Disk α} {k : α → Disk β} {b : β} : (d >>= k).on t = (.ok b, t') ↔
    ∃ a between, d.on t = (.ok a, between) ∧ (k a).on between = (.ok b, t') := by
  rw [on_bind]
  rcases d.on t with ⟨f | a, between⟩
  · simp
  · constructor
    · exact fun h => ⟨a, between, rfl, h⟩
    · rintro ⟨a', between', same, h⟩
      cases same
      exact h

theorem on_inspect (look : Tree → Except Fault α) (t : Tree) :
    (inspect look).on t =
      match look t with
      | .ok a => (.ok a, t)
      | .error f => (.error (.io f), t) := by
  rw [inspect, on_bind, on_get]
  dsimp only
  cases look t <;> rfl

theorem inspect_on_ok {look : Tree → Except Fault α} {a : α} :
    (inspect look).on t = (.ok a, t') ↔ look t = .ok a ∧ t' = t := by
  rw [on_inspect]
  cases look t with
  | error f => simp
  | ok b => simp [eq_comm]

end Disk

namespace Tree

def executableAt (t : Tree) (l : Location) : Bool :=
  match t.get? l with
  | some (.file _ executable) => executable
  | _ => false

/-- The path leads to a name at this location, and no directory has the name. -/
def FileAt (t : Tree) (p : Path) (l : Location) : Prop :=
  (∃ here name, t.spot p = .ok (.named here name false) ∧ l = here ++ [name]) ∧
    t.get? l ≠ some .directory

variable {t t' : Tree} {p : Path} {l : Location}

theorem FileAt.ne_nil (h : t.FileAt p l) : l ≠ [] := by
  obtain ⟨⟨here, name, -, rfl⟩, -⟩ := h
  simp

theorem FileAt.of_keeps (keeps : KeepsDirectories t t') (h : t.FileAt p l)
    (file : t'.get? l ≠ some .directory) : t'.FileAt p l := by
  obtain ⟨⟨here, name, spot, rfl⟩, -⟩ := h
  exact ⟨⟨here, name, spot_of_keeps keeps spot, rfl⟩, file⟩

theorem find_eq_file_iff {content : Content} {executable : Bool} :
    t.find p = .ok (l, .file content executable) ↔
      t.FileAt p l ∧ t.get? l = some (.file content executable) := by
  constructor
  · intro h
    obtain ⟨spot, leads, h⟩ := bind_eq_ok.mp h
    cases spot with
    | directory => cases h
    | named here name slash =>
      dsimp only at h
      split at h
      · cases h
      · cases h
      · rename_i found
        split at h
        · cases h
        · rename_i bare
          cases h
          have plain : slash = false := by simpa using bare
          subst plain
          exact ⟨⟨⟨here, name, leads, rfl⟩, by simp [found]⟩, found⟩
  · rintro ⟨⟨⟨here, name, leads, rfl⟩, -⟩, found⟩
    rw [find]
    refine bind_eq_ok.mpr ⟨_, leads, ?_⟩
    simp only [found]
    rfl

theorem hasDirectory_iff {here : Location} {name : String} {slash : Bool}
    (leads : t.spot p = .ok (.named here name slash)) :
    t.hasDirectory p = true ↔ t.get? (here ++ [name]) = some .directory := by
  rw [hasDirectory, find, leads, ok_bind]
  cases slash <;> rcases entry : t.get? (here ++ [name]) with _ | _ | _ <;>
    simp [entry, pure, Except.pure, throw, throwThe, MonadExceptOf.throw]

end Tree

namespace Disk

variable {t t' : Tree} {p : Path} {l : Location}

theorem createFile_on_ok : (createFile p).on t = (.ok l, t') ↔
    t.FileAt p l ∧ t' = t.put l (.file .empty (t.executableAt l)) := by
  simp only [createFile, Disk.spot, bind_on_ok, inspect_on_ok]
  constructor
  · rintro ⟨spot, _, ⟨leads, rfl⟩, h⟩
    cases spot with
    | directory => cases h
    | named here name slash =>
      obtain ⟨_, _, got, h⟩ := bind_on_ok.mp h
      cases got
      split at h
      · cases h
      · rename_i found
        cases slash with
        | true => cases h
        | false =>
          cases h
          refine ⟨⟨⟨here, name, leads, rfl⟩, by simp [found]⟩, ?_⟩
          simp [Tree.executableAt, found]
      · rename_i found
        cases slash with
        | true => cases h
        | false =>
          cases h
          refine ⟨⟨⟨here, name, leads, rfl⟩, by simp [found]⟩, ?_⟩
          simp [Tree.executableAt, found]
  · rintro ⟨⟨⟨here, name, leads, rfl⟩, file⟩, rfl⟩
    refine ⟨_, _, ⟨leads, rfl⟩, ?_⟩
    refine bind_on_ok.mpr ⟨t, t, rfl, ?_⟩
    cases found : t.get? (here ++ [name]) with
    | none =>
      simp only [Tree.executableAt, found]
      rfl
    | some e =>
      cases e with
      | directory => exact absurd found file
      | file content executable =>
        simp only [Tree.executableAt, found]
        rfl

theorem fill_on (l : Location) (content : Content) (t : Tree) {old : Content} {executable : Bool}
    (file : t.get? l = some (.file old executable)) :
    (fill l content).on t = (.ok (), t.put l (.file content executable)) := by
  rw [fill, on_modify]
  simp only [file]

theorem rename_on_ok {source target : Path} {content : Content} {executable : Bool}
    (origin : t.FileAt source l) (file : t.get? l = some (.file content executable)) :
    (rename source target).on t = (.ok (), t') ↔
      ∃ l', t.FileAt target l' ∧ t' = (t.drop l).put l' (.file content executable) := by
  obtain ⟨⟨here, name, leads, rfl⟩, -⟩ := origin
  simp only [rename, Disk.spot, bind_on_ok, inspect_on_ok]
  constructor
  · rintro ⟨_, _, ⟨leads', rfl⟩, goal, _, ⟨leadsGoal, rfl⟩, h⟩
    rw [leads] at leads'
    cases leads'
    cases goal with
    | directory => cases h
    | named there goal slash =>
      obtain ⟨_, _, got, h⟩ := bind_on_ok.mp h
      cases got
      rw [file] at h
      cases slash with
      | true => cases h
      | false =>
        obtain ⟨_, _, got, h⟩ := bind_on_ok.mp h
        cases got
        split at h
        · cases h
        · rename_i free
          cases h
          exact ⟨_, ⟨⟨there, goal, leadsGoal, rfl⟩, free⟩, rfl⟩
  · rintro ⟨_, ⟨⟨there, goal, leadsGoal, rfl⟩, free⟩, rfl⟩
    refine ⟨_, _, ⟨leads, rfl⟩, _, _, ⟨leadsGoal, rfl⟩, ?_⟩
    refine bind_on_ok.mpr ⟨t, t, rfl, ?_⟩
    rw [file]
    refine bind_on_ok.mpr ⟨t, t, rfl, ?_⟩
    split
    · rename_i directory
      exact absurd directory free
    · rfl

theorem makeDirectory_on_ok : (makeDirectory p).on t = (.ok (), t') ↔
    ∃ here name slash, t.spot p = .ok (.named here name slash) ∧
      t.get? (here ++ [name]) = none ∧ t' = t.put (here ++ [name]) .directory := by
  simp only [makeDirectory, Disk.spot, bind_on_ok, inspect_on_ok]
  constructor
  · rintro ⟨spot, _, ⟨leads, rfl⟩, h⟩
    cases spot with
    | directory => cases h
    | named here name slash =>
      obtain ⟨_, _, got, h⟩ := bind_on_ok.mp h
      cases got
      split at h
      · cases h
      · rename_i free
        cases h
        exact ⟨here, name, slash, leads, free, rfl⟩
  · rintro ⟨here, name, slash, leads, free, rfl⟩
    refine ⟨_, _, ⟨leads, rfl⟩, ?_⟩
    refine bind_on_ok.mpr ⟨t, t, rfl, ?_⟩
    rw [free]
    rfl

theorem makeDirectory_on_error {f : Failure} (h : (makeDirectory p).on t = (.error f, t')) :
    t' = t := by
  simp only [makeDirectory, Disk.spot, on_bind, on_inspect] at h
  split at h
  · rename_i s t₁ found
    split at found
    · cases found
      cases s with
      | directory => cases h; rfl
      | named here name slash =>
        simp only [on_bind, on_get] at h
        split at h
        · cases h
          rfl
        · cases h
    · cases found
  · rename_i found
    split at found
    · cases found
    · cases found
      cases h
      rfl

theorem ensureDirectory_on_ok : (ensureDirectory p).on t = (.ok (), t') ↔
    (makeDirectory p).on t = (.ok (), t') ∨
      (∃ f, (makeDirectory p).on t = (.error f, t)) ∧ t.hasDirectory p = true ∧ t' = t := by
  rw [ensureDirectory, on_tryCatch]
  rcases ran : (makeDirectory p).on t with ⟨f | u, between⟩
  · have same := makeDirectory_on_error ran
    subst same
    simp only [on_bind, on_get]
    cases directory : between.hasDirectory p with
    | true => simp [eq_comm]
    | false => simp
  · simp
end Disk

end PuzzlePrep

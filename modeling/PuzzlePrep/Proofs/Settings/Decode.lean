import PuzzlePrep.Proofs.Settings.Layer

namespace PuzzlePrep

namespace Setting

namespace Reader

structure Slot (σ : Type) where
  {α : Type}
  name : String
  read : Reader α
  get : σ → α
  put : σ → α → σ

def Slot.field {σ : Type} (a : Slot σ) : FieldOf σ := Reader.field a.name a.read a.put

/-- What is read of a value, if there is one, and what was there before otherwise. -/
def Given {α : Type} (read : Reader α) (place : List String) (j? : Option Setting) (now before : α) :
    Prop :=
  match j? with
  | some j => read place j = .ok now
  | none => now = before

def taken? {α : Type} (read : Reader α) (place : List String) (j? : Option Setting) (before : α) :
    Option α :=
  match j? with
  | some j => (read place j).toOption
  | none => some before

theorem given_iff {α : Type} {read : Reader α} {place : List String} {j? : Option Setting}
    {now before : α} : Given read place j? now before ↔ taken? read place j? before = some now := by
  cases j? with
  | none => simp [Given, taken?, eq_comm]
  | some j =>
    show read place j = .ok now ↔ (read place j).toOption = some now
    cases read place j <;> simp [Except.toOption]

theorem Given.or {α : Type} {read : Reader α} {place : List String} {upper lower : Option Setting}
    {now between before : α} (above : Given read place upper now between)
    (beneath : Given read place lower between before) :
    Given read place (upper.or lower) now before := by
  cases upper with
  | some j => exact above
  | none =>
    obtain rfl : now = between := above
    exact beneath

/-- Fields that do not meet: each gives back what was put into it, and only that. -/
structure Lawful {σ : Type} (slots : List (Slot σ)) : Prop where
  get_put : ∀ a ∈ slots, ∀ s v, a.get (a.put s v) = v
  apart : slots.Pairwise fun a b => a.name ≠ b.name ∧
    (∀ s v, a.get (b.put s v) = a.get s) ∧ ∀ s v, b.get (a.put s v) = b.get s

section Members

variable {σ : Type} {slots : List (Slot σ)} {a b : Slot σ}

theorem Lawful.eq_or_apart (lawful : Lawful slots) (here : a ∈ slots) (there : b ∈ slots) :
    a = b ∨ a.name ≠ b.name ∧ ∀ s v, a.get (b.put s v) = a.get s := by
  induction slots with
  | nil => cases here
  | cons first rest ih =>
    obtain ⟨fromFirst, later⟩ := List.pairwise_cons.mp lawful.apart
    have restLawful : Lawful rest :=
      ⟨fun a member => lawful.get_put a (List.mem_cons_of_mem _ member), later⟩
    rcases List.mem_cons.mp here with rfl | hereLater
    · rcases List.mem_cons.mp there with rfl | thereLater
      · exact Or.inl rfl
      · obtain ⟨names, keeps, _⟩ := fromFirst b thereLater
        exact Or.inr ⟨names, keeps⟩
    · rcases List.mem_cons.mp there with rfl | thereLater
      · obtain ⟨names, _, keeps⟩ := fromFirst a hereLater
        exact Or.inr ⟨Ne.symm names, keeps⟩
      · exact ih restLawful hereLater thereLater

theorem lookup_fields (slots : List (Slot σ)) (key : String) :
    (∃ a ∈ slots, a.name = key ∧
        (slots.map Slot.field).lookup key = some fun place j s => (a.read place j).map (a.put s)) ∨
      (∀ a ∈ slots, a.name ≠ key) ∧ (slots.map Slot.field).lookup key = none := by
  induction slots with
  | nil => exact Or.inr ⟨nofun, rfl⟩
  | cons first rest ih =>
    rw [List.map_cons, Slot.field, Reader.field, List.lookup_cons]
    by_cases same : key = first.name
    · subst same
      exact Or.inl ⟨first, List.mem_cons_self, rfl, by simp⟩
    · have other : (key == first.name) = false := by simpa using same
      rw [other]
      rcases ih with ⟨a, member, named, found⟩ | ⟨absent, found⟩
      · exact Or.inl ⟨a, List.mem_cons_of_mem _ member, named, found⟩
      · exact Or.inr ⟨List.forall_mem_cons.mpr ⟨Ne.symm same, absent⟩, found⟩

theorem Lawful.given_put (lawful : Lawful slots) (here : a ∈ slots) (there : b ∈ slots)
    {place : List String} {rest : Members} (once : Members.get? rest a.name = none) {s s' : σ}
    {v : a.α} {j : Setting} (read : a.read (place ++ [a.name]) j = .ok v)
    (given : Given b.read (place ++ [b.name]) (Members.get? rest b.name) (b.get s')
      (b.get (a.put s v))) :
    Given b.read (place ++ [b.name]) (Members.get? ((a.name, j) :: rest) b.name) (b.get s')
      (b.get s) := by
  rw [Members.get?_cons]
  rcases lawful.eq_or_apart there here with rfl | ⟨names, keeps⟩
  · -- The key does not come again in the rest, so what has been put stays.
    rw [once] at given
    rw [if_pos rfl]
    have put : b.get s' = v := given.trans (lawful.get_put b there s v)
    show b.read _ j = .ok (b.get s')
    rw [put, read]
  · rw [if_neg names]
    rw [keeps] at given
    exact given

theorem fromMembers_lawful (place : List String) {m : Members} (lawful : Lawful slots)
    (nodup : (m.map Prod.fst).Nodup)
    (readable : ∀ a ∈ slots, ∀ j, m.get? a.name = some j → (a.read (place ++ [a.name]) j).isOk)
    (s : σ) :
    ∃ s', fromMembers (slots.map Slot.field) place m s = .ok s' ∧
      ∀ a ∈ slots, Given a.read (place ++ [a.name]) (m.get? a.name) (a.get s') (a.get s) := by
  -- a key comes once, so what is put for the first one stays while the others are gone through
  induction m generalizing s with
  | nil => exact ⟨s, rfl, fun _ _ => rfl⟩
  | cons e rest ih =>
    obtain ⟨key, j⟩ := e
    obtain ⟨absent, restNodup⟩ := List.nodup_cons.mp nodup
    have onlyHere : Members.get? rest key = none := Members.get?_eq_none_of_not_mem absent
    have later : ∀ a ∈ slots, ∀ j, Members.get? rest a.name = some j →
        (a.read (place ++ [a.name]) j).isOk := by
      intro a member j' found
      have other : a.name ≠ key := by
        intro same
        rw [same, onlyHere] at found
        cases found
      exact readable a member j' (by rw [Members.get?_cons, if_neg other, found])
    unfold fromMembers
    rcases lookup_fields slots key with
      ⟨a, member, rfl, found⟩ | ⟨unknown, found⟩
    · have ok := readable a member j (by rw [Members.get?_cons, if_pos rfl])
      obtain ⟨v, read⟩ : ∃ v, a.read (place ++ [a.name]) j = .ok v := by
        cases read : a.read (place ++ [a.name]) j with
        | ok v => exact ⟨v, rfl⟩
        | error fault => rw [read] at ok; cases ok
      obtain ⟨s', run, given⟩ := ih restNodup later (a.put s v)
      rw [found]
      dsimp only
      rw [read]
      exact ⟨s', run, fun b there => lawful.given_put member there onlyHere read (given b there)⟩
    · rw [found]
      obtain ⟨s', run, given⟩ := ih restNodup later s
      refine ⟨s', run, ?_⟩
      intro b there
      rw [Members.get?_cons, if_neg (unknown b there)]
      exact given b there

end Members

def fetchSlots : List (Slot FetchSettings) :=
  [⟨"base_url", text, FetchSettings.baseUrl, fun s v => { s with baseUrl := v }⟩,
   ⟨"timeout_secs", natural "u64", FetchSettings.timeoutSecs, fun s v => { s with timeoutSecs := v }⟩]

def mergeSlots : List (Slot MergeSettings) :=
  [⟨"sources", sequence text, MergeSettings.sources, fun s v => { s with sources := v }⟩,
   ⟨"output", text, MergeSettings.output, fun s v => { s with output := v }⟩]

def preprocessSlots : List (Slot PreprocessSettings) :=
  [⟨"routine", routine, PreprocessSettings.routine, fun s v => { s with routine := v }⟩,
   ⟨"interpreter", path, PreprocessSettings.interpreter, fun s v => { s with interpreter := v }⟩,
   ⟨"venv_path", optional path, PreprocessSettings.venv, fun s v => { s with venv := v }⟩,
   ⟨"script", path, PreprocessSettings.script, fun s v => { s with script := v }⟩,
   ⟨"preview", natural "usize", PreprocessSettings.preview, fun s v => { s with preview := v }⟩,
   ⟨"timeout_secs", natural "u64", PreprocessSettings.timeoutSecs,
    fun s v => { s with timeoutSecs := v }⟩]

def trainSlots : List (Slot TrainSettings) :=
  [⟨"interpreter", path, TrainSettings.interpreter, fun s v => { s with interpreter := v }⟩,
   ⟨"module", text, TrainSettings.module, fun s v => { s with module := v }⟩,
   ⟨"reward_function", path, TrainSettings.rewardFunction,
    fun s v => { s with rewardFunction := v }⟩,
   ⟨"partition", optional text, TrainSettings.partition, fun s v => { s with partition := v }⟩,
   ⟨"overrides", sequence text, TrainSettings.overrides, fun s v => { s with overrides := v }⟩]

def plainSlots : List (Slot Settings) :=
  [⟨"raw_dir", path, Settings.rawDir, fun s v => { s with rawDir := v }⟩,
   ⟨"processed_dir", path, Settings.processedDir, fun s v => { s with processedDir := v }⟩,
   ⟨"partitions", sequence text, Settings.partitions, fun s v => { s with partitions := v }⟩]

structure Section where
  {τ : Type}
  name : String
  expected : String
  slots : List (Slot τ)
  part : Settings → τ
  put : Settings → τ → Settings

def Section.slot (c : Section) : Slot Settings :=
  ⟨c.name, ofFields c.expected (c.slots.map Slot.field) (c.part Settings.default), c.part, c.put⟩

def sections : List Section :=
  [⟨"fetch", "struct FetchConfig", fetchSlots, Settings.fetch, fun s v => { s with fetch := v }⟩,
   ⟨"merge", "struct MergeConfig", mergeSlots, Settings.merge, fun s v => { s with merge := v }⟩,
   ⟨"preprocess", "struct PreprocessConfig", preprocessSlots, Settings.preprocess,
    fun s v => { s with preprocess := v }⟩,
   ⟨"train", "struct TrainConfig", trainSlots, Settings.train, fun s v => { s with train := v }⟩]

def allSlots : List (Slot Settings) := plainSlots ++ sections.map Section.slot

theorem settingsFields_eq : settingsFields = allSlots.map Slot.field := rfl

structure Leaf where
  {α : Type}
  path : List String
  read : Reader α
  get : Settings → α

def Slot.leaf (a : Slot Settings) : Leaf := ⟨[a.name], a.read, a.get⟩

def Section.leaf (c : Section) (a : Slot c.τ) : Leaf :=
  ⟨[c.name, a.name], a.read, fun s => a.get (c.part s)⟩

def Section.leaves (c : Section) : List Leaf := c.slots.map c.leaf

def leaves : List Leaf := plainSlots.map Slot.leaf ++ sections.flatMap Section.leaves

theorem mem_leaves {l : Leaf} : l ∈ leaves ↔
    (∃ a ∈ plainSlots, a.leaf = l) ∨ ∃ c ∈ sections, ∃ a ∈ c.slots, c.leaf a = l := by
  simp only [leaves, Section.leaves, List.mem_append, List.mem_map, List.mem_flatMap]

theorem eq_of_leaves {s s' : Settings} (same : ∀ l ∈ leaves, l.get s = l.get s') : s = s' := by
  obtain ⟨_, _, _, ⟨_, _⟩, ⟨_, _⟩, ⟨_, _, _, _, _, _⟩, ⟨_, _, _, _, _⟩⟩ := s
  obtain ⟨_, _, _, ⟨_, _⟩, ⟨_, _⟩, ⟨_, _, _, _, _, _⟩, ⟨_, _, _, _, _⟩⟩ := s'
  simpa [leaves, plainSlots, sections, Section.leaves, Section.leaf, Slot.leaf, fetchSlots,
    mergeSlots, preprocessSlots, trainSlots, and_assoc] using same

example : leaves.map Leaf.path =
    [["raw_dir"], ["processed_dir"], ["partitions"],
     ["fetch", "base_url"], ["fetch", "timeout_secs"],
     ["merge", "sources"], ["merge", "output"],
     ["preprocess", "routine"], ["preprocess", "interpreter"], ["preprocess", "venv_path"],
     ["preprocess", "script"], ["preprocess", "preview"], ["preprocess", "timeout_secs"],
     ["train", "interpreter"], ["train", "module"], ["train", "reward_function"],
     ["train", "partition"], ["train", "overrides"]] := rfl

def Leaf.Given (l : Leaf) (j? : Option Setting) (now before : Settings) : Prop :=
  Reader.Given l.read l.path j? (l.get now) (l.get before)

theorem lawful_allSlots : Lawful allSlots := by
  refine ⟨?_, ?_⟩
  · simp [allSlots, plainSlots, sections, Section.slot]
  · simp [allSlots, plainSlots, sections, Section.slot]

theorem lawful_sections : ∀ c ∈ sections, Lawful c.slots := by
  intro c member
  refine ⟨?_, ?_⟩
  · revert c
    simp [sections, fetchSlots, mergeSlots, preprocessSlots, trainSlots]
  · revert c
    simp [sections, fetchSlots, mergeSlots, preprocessSlots, trainSlots]

theorem proper_leaves : ∀ l ∈ leaves, l.path ≠ [] := by
  intro l member
  rcases mem_leaves.mp member with ⟨a, -, rfl⟩ | ⟨c, -, a, -, rfl⟩
  · exact List.cons_ne_nil _ _
  · exact List.cons_ne_nil _ _

end Reader

open Reader

/-- Whether a value says a part of what settings say: it is a table, its sections are tables as well,
and at a leaf there is nothing or a value that can be read as what stands there. -/
def wellTyped (j : Setting) : Bool :=
  leaves.all fun l => clear l.path j && (j.at? l.path).all fun v => (l.read l.path v).isOk

section WellTyped

variable {j : Setting} {m : Members}

theorem wellTyped_iff : j.wellTyped = true ↔ ∀ l ∈ leaves,
    clear l.path j = true ∧ ∀ v, j.at? l.path = some v → (l.read l.path v).isOk = true := by
  simp [wellTyped, Option.all_eq_true]

theorem table_of_wellTyped (typed : j.wellTyped) : ∃ m : Members, j = .table m := by
  obtain ⟨way, -⟩ := wellTyped_iff.mp typed _ (List.mem_cons_self : _ ∈ leaves)
  obtain ⟨m, rfl, -⟩ := clear_cons.mp way
  exact ⟨m, rfl⟩

theorem read_section {c : Section} (member : c ∈ sections) (ordered : Ordered (.table m))
    (typed : (table m).wellTyped) (found : m.get? c.name = some j) :
    ∃ part, c.slot.read [c.name] j = .ok part ∧
      ∀ a ∈ c.slots, Given a.read [c.name, a.name] (j.at? [a.name]) (a.get part)
        (a.get (c.part Settings.default)) := by
  have leaf : ∀ a ∈ c.slots, clear [a.name] j = true ∧
      ∀ v, j.at? [a.name] = some v → (a.read [c.name, a.name] v).isOk = true := by
    intro a there
    have isLeaf : c.leaf a ∈ leaves := mem_leaves.mpr (Or.inr ⟨c, member, a, there, rfl⟩)
    obtain ⟨way, readable⟩ := wellTyped_iff.mp typed _ isLeaf
    obtain ⟨m', same, way⟩ := clear_cons.mp way
    cases same
    refine ⟨way j found, ?_⟩
    intro v here
    exact readable v (by rw [Section.leaf, at?_key, found]; exact here)
  have some : c.slots ≠ [] := by
    revert c
    simp [sections, fetchSlots, mergeSlots, preprocessSlots, trainSlots]
  obtain ⟨first, there⟩ := List.exists_mem_of_ne_nil _ some
  obtain ⟨m', rfl, -⟩ := clear_cons.mp (leaf first there).1
  obtain ⟨part, read, given⟩ := fromMembers_lawful [c.name] (lawful_sections c member)
    (ordered.get? found).sorted.nodup
    (fun a there v here => (leaf a there).2 v (by rw [at?_single]; exact here))
    (c.part Settings.default)
  refine ⟨part, read, ?_⟩
  intro a there
  rw [at?_single]
  exact given a there

theorem readable_of_wellTyped (ordered : Ordered (table m)) (typed : (table m).wellTyped) :
    ∀ a ∈ allSlots, ∀ v, m.get? a.name = some v → (a.read ([] ++ [a.name]) v).isOk := by
  intro a there v found
  rcases List.mem_append.mp there with plain | inSection
  · have isLeaf : a.leaf ∈ leaves := mem_leaves.mpr (Or.inl ⟨a, plain, rfl⟩)
    obtain ⟨-, readable⟩ := wellTyped_iff.mp typed _ isLeaf
    exact readable v (by rw [Slot.leaf, at?_single]; exact found)
  · obtain ⟨c, member, rfl⟩ := List.mem_map.mp inSection
    obtain ⟨part, read, -⟩ := read_section member ordered typed found
    show (c.slot.read [c.name] v).isOk = true
    rw [read]
    rfl

theorem given_leaf_of_section {c : Section} {s : Settings} (member : c ∈ sections)
    (ordered : Ordered (table m)) (typed : (table m).wellTyped)
    (whole : Given c.slot.read [c.name] (m.get? c.name) (c.part s) (c.part Settings.default)) :
    ∀ a ∈ c.slots, (c.leaf a).Given ((table m).at? (c.leaf a).path) s Settings.default := by
  intro a there
  rw [Section.leaf, Leaf.Given, at?_key]
  cases found : Members.get? m c.name with
  | none =>
    -- A section that is left out is the default one, leaf by leaf.
    have same : c.part s = c.part Settings.default := by
      rw [found] at whole
      exact whole
    show a.get (c.part s) = a.get (c.part Settings.default)
    rw [same]
  | some v =>
    obtain ⟨part, read, each⟩ := read_section member ordered typed found
    have same : part = c.part s := by
      rw [found] at whole
      exact Except.ok.inj (read.symm.trans whole)
    have here := each a there
    rw [same] at here
    exact here

theorem ofSetting_of_wellTyped (ordered : Ordered j) (typed : j.wellTyped) :
    ∃ s, Settings.ofSetting j = .ok s ∧
      ∀ l ∈ leaves, l.Given (j.at? l.path) s Settings.default := by
  obtain ⟨m, rfl⟩ := table_of_wellTyped typed
  obtain ⟨s, run, given⟩ := fromMembers_lawful [] lawful_allSlots ordered.sorted.nodup
    (readable_of_wellTyped ordered typed) Settings.default
  refine ⟨s, ?_, ?_⟩
  · rw [Settings.ofSetting, settingsFields_eq]
    exact run
  intro l isLeaf
  rcases mem_leaves.mp isLeaf with ⟨a, there, rfl⟩ | ⟨c, member, a, there, rfl⟩
  · have here := given a (List.mem_append_left _ there)
    rw [Slot.leaf, Leaf.Given, at?_single]
    exact here
  · have whole := given c.slot (List.mem_append_right _ (List.mem_map_of_mem member))
    exact given_leaf_of_section member ordered typed whole a there

end WellTyped

end Setting

end PuzzlePrep

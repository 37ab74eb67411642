import PuzzlePrep.Proofs.Outcome
import PuzzlePrep.Table.Restored

namespace PuzzlePrep

namespace ColumnType

/-- No zero is a list or a record. -/
theorem restored?_zero (t item : ColumnType) : Cell.restored? t item.zero = some item.zero := by
  cases item <;> simp [zero, Cell.restored?]

end ColumnType

namespace Cell

theorem allRestored?_self {t : ColumnType} {items : List Cell}
    (kept : ∀ c ∈ items, restored? t c = some c) : allRestored? t items = some items := by
  induction items with
  | nil => rfl
  | cons c rest ih =>
    have later := ih fun d member => kept d (List.mem_cons_of_mem _ member)
    simp [allRestored?, kept c List.mem_cons_self, later]

theorem settle?_idem {zero : Cell} {items items' : List Cell} (h : settle? zero items = some items') :
    settle? zero items' = some items' := by
  have twice (c : Cell) : (if (if c.isNull then zero else c).isNull then zero
      else if c.isNull then zero else c) = if c.isNull then zero else c := by
    cases null : c.isNull <;> simp [null]
  match items, h with
  | [], h =>
    cases h
    rfl
  | [.null], h =>
    cases h
    rfl
  | .text _ :: rest, h | .whole _ :: rest, h | .real _ :: rest, h | .bool _ :: rest, h
  | .list _ :: rest, h | .record _ :: rest, h =>
    cases h
    simp only [settle?, List.map_map, Function.comp_def, twice]

theorem mem_of_settle? {zero c : Cell} {items items' : List Cell}
    (h : settle? zero items = some items') (member : c ∈ items') : c ∈ items ∨ c = zero := by
  match items, h with
  | [], h =>
    cases h
    cases member
  | [.null], h =>
    cases h
    cases member
  | .text _ :: rest, h | .whole _ :: rest, h | .real _ :: rest, h | .bool _ :: rest, h
  | .list _ :: rest, h | .record _ :: rest, h =>
    cases h
    rcases List.mem_cons.mp member with rfl | member
    · exact Or.inl List.mem_cons_self
    · obtain ⟨d, inside, rfl⟩ := List.mem_map.mp member
      by_cases null : d.isNull <;> simp [null, inside]

mutual

theorem restored?_idem (t : ColumnType) : ∀ (c : Cell) {c' : Cell},
    restored? t c = some c' → restored? t c' = some c'
  | .list items, c', h => by
    cases t with
    | list item =>
      obtain ⟨name, item, nullable⟩ := item
      cases nullable with
      | true =>
        simp only [restored?, Option.map_eq_some_iff] at h
        obtain ⟨items', read, rfl⟩ := h
        simp [restored?, allRestored?_self (restored?_of_mem item items read)]
      | false =>
        simp only [restored?, Option.map_eq_some_iff, Option.bind_eq_some_iff] at h
        obtain ⟨settled, ⟨items', read, settles⟩, rfl⟩ := h
        -- A zero that was put in for a null is neither a list nor a record.
        have kept : ∀ c ∈ settled, restored? item c = some c := by
          intro c member
          rcases mem_of_settle? settles member with inside | rfl
          · exact restored?_of_mem item items read c inside
          · exact item.restored?_zero item
        simp [restored?, allRestored?_self kept, settle?_idem settles]
    | _ => simp [restored?] at h
  | .record members, c', h => by
    cases t with
    | struct fields =>
      simp only [restored?, Option.map_eq_some_iff] at h
      obtain ⟨members', read, rfl⟩ := h
      simp [restored?, membersRestored?_idem fields members read]
    | _ => simp [restored?] at h
  | .null, c', h | .text _, c', h | .whole _, c', h | .real _, c', h | .bool _, c', h => by
    simp only [restored?, Option.some.injEq] at h
    subst h
    simp only [restored?]

theorem restored?_of_mem (t : ColumnType) : ∀ (items : List Cell) {items' : List Cell},
    allRestored? t items = some items' → ∀ c ∈ items', restored? t c = some c
  | [], items', h => by
    simp only [allRestored?, Option.some.injEq] at h
    subst h
    simp
  | c :: rest, items', h => by
    simp only [allRestored?, Option.bind_eq_bind, Option.bind_eq_some_iff, Option.pure_def,
      Option.some.injEq] at h
    obtain ⟨c', read, rest', reads, rfl⟩ := h
    exact List.forall_mem_cons.mpr ⟨restored?_idem t c read, restored?_of_mem t rest reads⟩

theorem membersRestored?_idem (fields : Fields) : ∀ (members : List Cell) {members' : List Cell},
    membersRestored? fields members = some members' →
      membersRestored? fields members' = some members'
  | [], members', h => by
    simp only [membersRestored?, Option.some.injEq] at h
    subst h
    rfl
  | c :: rest, members', h => by
    cases fields with
    | nil => simp [membersRestored?] at h
    | cons f fields =>
      simp only [membersRestored?, Option.bind_eq_bind, Option.bind_eq_some_iff, Option.pure_def,
        Option.some.injEq] at h
      obtain ⟨c', read, rest', reads, rfl⟩ := h
      simp [membersRestored?, restored?_idem f.type c read,
        membersRestored?_idem fields rest reads]

end

theorem restored?_of_mem_zip {fields : List Field} {cells : List Cell}
    (h : membersRestored? (Fields.ofList fields) cells = some cells) :
    ∀ x ∈ fields.zip cells, restored? x.1.type x.2 = some x.2 := by
  induction fields generalizing cells with
  | nil => simp
  | cons f fields ih =>
    cases cells with
    | nil => simp
    | cons c cells =>
      simp only [Fields.ofList, membersRestored?, Option.bind_eq_bind, Option.bind_eq_some_iff,
        Option.pure_def, Option.some.injEq, List.cons.injEq] at h
      obtain ⟨_, read, _, reads, rfl, rfl⟩ := h
      exact List.forall_mem_cons.mpr ⟨read, ih reads⟩

theorem membersRestored?_map {fields : List Field} {cell : Field → Cell}
    (kept : ∀ f ∈ fields, restored? f.type (cell f) = some (cell f)) :
    membersRestored? (Fields.ofList fields) (fields.map cell) = some (fields.map cell) := by
  induction fields with
  | nil => rfl
  | cons f fields ih =>
    obtain ⟨here, later⟩ := List.forall_mem_cons.mp kept
    simp [Fields.ofList, membersRestored?, here, ih later]

end Cell

namespace Table

theorem flatten_cut {size fuel : Nat} {rows : List Row} (positive : 0 < size)
    (enough : rows.length ≤ fuel) : (cut size fuel rows).flatten = rows := by
  induction fuel generalizing rows with
  | zero =>
    have empty : rows = [] := List.eq_nil_of_length_eq_zero (Nat.le_zero.mp enough)
    rw [empty]
    rfl
  | succ fuel ih =>
    rw [cut]
    cases rows with
    | nil => rfl
    | cons r rows =>
      have less : ((r :: rows).drop size).length ≤ fuel := by
        rw [List.length_drop]
        simp only [List.length_cons] at enough ⊢
        omega
      simp only [List.isEmpty_cons, Bool.false_eq_true, if_false, List.flatten_cons, ih less,
        List.take_append_drop]

@[simp] theorem flatten_batchesOf (rows : List Row) : (batchesOf rows).flatten = rows :=
  flatten_cut (by decide) (Nat.le_refl _)

@[simp] theorem rows_batchesOf (s : Schema) (rows : List Row) :
    (Table.mk s (batchesOf rows)).rows = rows := flatten_batchesOf rows

theorem restored?_eq_some_iff {t t' : Table} : t.restored? = some t' ↔
    t.batches.mapM (List.mapM (Cell.membersRestored? (Fields.ofList t.schema.columns))) =
      some t'.batches ∧ t'.schema = t.schema := by
  obtain ⟨schema, batches⟩ := t
  obtain ⟨schema', batches'⟩ := t'
  simp only [restored?, Option.bind_eq_bind, Option.bind_eq_some_iff, Option.pure_def,
    Option.some.injEq, Table.mk.injEq]
  constructor
  · rintro ⟨_, read, rfl, rfl⟩
    exact ⟨read, rfl⟩
  · rintro ⟨read, rfl⟩
    exact ⟨batches', read, rfl, rfl⟩

theorem map_rows_restored? (t : Table) : t.restored?.map Table.rows =
    t.rows.mapM (Cell.membersRestored? (Fields.ofList t.schema.columns)) := by
  rw [Table.rows, mapM_flatten, restored?]
  cases t.batches.mapM (List.mapM (Cell.membersRestored? (Fields.ofList t.schema.columns))) <;> rfl

theorem membersRestored?_of_mem_rows {t t' : Table} (h : t.restored? = some t') :
    ∀ r ∈ t'.rows, Cell.membersRestored? (Fields.ofList t'.schema.columns) r = some r := by
  intro r member
  have read := map_rows_restored? t
  rw [h] at read
  obtain ⟨r', -, read⟩ := mem_of_mapM read.symm member
  rw [(restored?_eq_some_iff.mp h).2]
  exact Cell.membersRestored?_idem _ r' read

theorem restored?_self {t : Table}
    (kept : ∀ r ∈ t.rows, Cell.membersRestored? (Fields.ofList t.schema.columns) r = some r) :
    t.restored? = some t := by
  refine restored?_eq_some_iff.mpr ⟨mapM_self fun b inside => mapM_self fun r member => ?_, rfl⟩
  exact kept r (List.mem_flatten.mpr ⟨b, inside, member⟩)

end Table

end PuzzlePrep

import Mathlib.Data.List.Forall2
import PuzzlePrep.Proofs.Table.Stored

namespace PuzzlePrep

namespace Fields

@[simp] theorem ofList_toList : ∀ fields : Fields, ofList fields.toList = fields
  | .nil => rfl
  | .cons f rest => by rw [toList, ofList, ofList_toList rest]

end Fields

namespace Cell

/-- The cell has the type, and the type allows its nulls and can tell all its values apart. -/
inductive Exact : ColumnType → Cell → Prop
  | null {t : ColumnType} : Exact t .null
  | utf8 {s : String} : Exact .utf8 (.text s)
  | largeUtf8 {s : String} : Exact .largeUtf8 (.text s)
  | bool {b : Bool} : Exact .bool (.bool b)
  | int32 {i : Int} : -2147483648 ≤ i → i < 2147483648 → Exact .int32 (.whole i)
  | int64 {i : Int} : Number.isSigned i = true → Exact .int64 (.whole i)
  | uint64 {i : Int} : Number.isUnsigned i = true → Exact .uint64 (.whole i)
  | list {label : String} {item : ColumnType} {items : List Cell} :
      (∀ c ∈ items, Exact item c) → Exact (.list (.mk label item true)) (.list items)
  | record {fields : Fields} {members : List Cell} : (fields.toList.map Field.name).Nodup →
      (∀ f ∈ fields.toList, f.nullable = true) → members.length = fields.toList.length →
      (∀ f c, (f, c) ∈ fields.toList.zip members → Exact f.type c) →
      Exact (.struct fields) (.record members)

variable {t : ColumnType} {c : Cell}

theorem itemsJson_eq_map (t : ColumnType) (items : List Cell) :
    itemsJson t items = items.map (toJson t) := by
  induction items with
  | nil => simp [itemsJson]
  | cons c rest ih => rw [itemsJson, ih, List.map_cons]

theorem membersRestored?_self {fields : List Field} {members : List Cell}
    (length : members.length = fields.length)
    (kept : ∀ f c, (f, c) ∈ fields.zip members → restored? f.type c = some c) :
    membersRestored? (Fields.ofList fields) members = some members := by
  induction members generalizing fields with
  | nil => rfl
  | cons c members ih =>
    cases fields with
    | nil => cases length
    | cons f fields =>
      have first := kept f c (by simp)
      have later := ih (by simpa using length) fun f c inside =>
        kept f c (List.mem_cons_of_mem _ inside)
      simp [membersRestored?, Fields.ofList, first, later]

theorem Exact.restored? (exact : Exact t c) : restored? t c = some c := by
  induction exact with
  | list _ ih => rw [Cell.restored?, allRestored?_self ih, Option.map_some]
  | @record fields members _ _ length _ ih =>
    have same := membersRestored?_self length ih
    rw [Fields.ofList_toList] at same
    rw [Cell.restored?, same, Option.map_some]
  | _ => simp only [Cell.restored?]

theorem Exact.ofJson? (exact : Exact t c) : ofJson? true t (c.toJson t) = some c := by
  induction exact with
  | null => simp [toJson, Cell.ofJson?]
  | utf8 => simp [toJson, Cell.ofJson?]
  | largeUtf8 => simp [toJson, Cell.ofJson?]
  | bool => simp [toJson, Cell.ofJson?]
  | int32 low high => simp [toJson, Json.whole, Cell.ofJson?, low, high]
  | int64 signed => simp [toJson, Json.whole, Cell.ofJson?, signed]
  | uint64 unsigned => simp [toJson, Json.whole, Cell.ofJson?, unsigned]
  | @list label item items _ ih =>
    have back : (items.map (toJson item)).mapM (itemOfJson? (.mk label item true)) = some items := by
      rw [List.mapM_map]
      apply mapM_self
      intro c member
      simp [itemOfJson?, ih c member]
    simp [toJson, Cell.ofJson?, Field.type, itemsJson_eq_map, back]
  | @record fields members apart nullable length _ ih =>
    have read : fields.toList.mapM (cell? (Schema.rowJson ⟨fields.toList, []⟩ members)) =
        some members := by
      refine mapM_of_zip length fun f c inside => ?_
      have field := (List.of_mem_zip inside).1
      rw [cell?, nullable f field, Table.get?_rowJson (s := ⟨fields.toList, []⟩) apart,
        Table.cellOf_of_mem_zip (s := ⟨fields.toList, []⟩) apart inside,
        columnType?_of_mem apart field, Option.map_some]
      -- A null member is left out, and read as null again.
      cases null : c.isNull with
      | true =>
        cases c with
        | null => simp [Cell.ofJson?]
        | _ => cases null
      | false => exact ih f c inside
    rw [← Schema.rowOfJson?_eq ⟨fields.toList, []⟩, Schema.rowOfJson?, Fields.ofList_toList] at read
    change (membersOfJson? fields (Schema.rowJson ⟨fields.toList, []⟩ members)).map _ = _
    rw [read, Option.map_some]

/-- A record whose members may be null, given cell by cell. -/
theorem Exact.recordOf {members : List (String × ColumnType)} {cells : List Cell}
    (apart : (members.map Prod.fst).Nodup)
    (each : List.Forall₂ (fun m c => Exact m.2 c) members cells) :
    Exact (.recordOf members) (.record cells) := by
  apply Exact.record
  · simpa [Function.comp_def, Field.name] using apart
  · intro f member
    rw [Fields.toList_ofList] at member
    obtain ⟨m, -, rfl⟩ := List.mem_map.mp member
    rfl
  · simpa using each.length_eq.symm
  · intro f c inside
    rw [Fields.toList_ofList, List.zip_map_left] at inside
    obtain ⟨⟨m, c'⟩, there, same⟩ := List.mem_map.mp inside
    cases same
    exact List.forall₂_zip each there

end Cell

section Row

variable {s : Schema} {r : Row} (exact : Cell.Exact (.struct (Fields.ofList s.columns)) (.record r))

include exact

theorem Schema.rowOfJson?_rowJson : s.rowOfJson? (s.rowJson r) = some r := by
  have read := exact.ofJson?
  rw [Cell.toJson, Fields.toList_ofList] at read
  change (s.rowOfJson? (s.rowJson r)).map Cell.record = _ at read
  simpa using read

theorem Cell.Exact.membersRestored? : Cell.membersRestored? (Fields.ofList s.columns) r = some r := by
  have read := exact.restored?
  rw [Cell.restored?] at read
  simpa using read

end Row

end PuzzlePrep

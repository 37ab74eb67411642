import PuzzlePrep.Proofs.Table.Stored
import PuzzlePrep.Stage.Convert

namespace PuzzlePrep

def Json.Members.withIndex (index : Nat) (row : Json.Members) : Json.Members :=
  let info := ((row.get? "extra_info").bind Json.obj?).getD []
  row.insert "extra_info" (.obj (Members.insert "index" (Json.whole (Record.signed index)) info))

@[simp] theorem Json.Members.withIndex_withIndex (index index' : Nat) (row : Json.Members) :
    (row.withIndex index).withIndex index' = row.withIndex index' := by
  simp only [withIndex, get?_insert_self, insert_insert, Option.bind_some, Json.obj?,
    Option.getD_some]

namespace Record

def infoColumn : Field :=
  .mk "extra_info" (.recordOf [("split", .utf8), ("index", .int64)]) true

def infoJson (split : Split) (index : Nat) : Json :=
  .obj [("index", Json.whole (signed index)), ("split", .str split.name)]

theorem wordCount_eq_two_mul : Number.wordCount = 2 * Number.signedBound := by decide

theorem isSigned_signed (index : Nat) : Number.isSigned (signed index) = true := by
  have lower := Int.le_bmod (x := index) (m := Number.wordCount) (by decide)
  have upper := Int.bmod_lt (x := index) (m := Number.wordCount) (by decide)
  have twice := wordCount_eq_two_mul
  rw [Number.isSigned, signed, Bool.and_eq_true, decide_eq_true_iff, decide_eq_true_iff]
  omega

/-- A position is the index itself as long as it is a signed word. -/
theorem signed_of_lt {index : Nat} (small : index < Number.signedBound) : signed index = index := by
  have twice := wordCount_eq_two_mul
  rw [signed, Int.bmod_eq_of_le] <;> omega

variable {raw merged : Schema} {row : Json.Members} {split : Split}

theorem ofJson?_info {index : Int} (signed : Number.isSigned index = true) (split : String) :
    Cell.ofJson? true infoColumn.type (.obj [("index", Json.whole index), ("split", .str split)]) =
      some (.record [.text split, .whole index]) := by
  simp [infoColumn, Field.type, ColumnType.recordOf, Fields.ofList, Cell.ofJson?,
    Cell.membersOfJson?, Json.Members.get?, Json.whole, signed]

theorem cell?_info (row : Json.Members) (split : Split) (index : Nat) :
    cell? (ofRow row split index).toMembers infoColumn =
      some (.record [.text split.name, .whole (signed index)]) := by
  have value : (ofRow row split index).toMembers.get? infoColumn.name =
      some (infoJson split index) := by
    simp [infoColumn, Field.name, toMembers, Json.Members.get?, infoJson, ofRow]
  rw [cell?, value]
  exact ofJson?_info (isSigned_signed index) split.name

theorem storedMember?_info (row : Json.Members) (split : Split) (index : Nat) :
    storedMember? (ofRow row split index).toMembers infoColumn =
      some (some ("extra_info", infoJson split index)) := by
  rw [storedMember?, cell?_info]
  rfl

/-- Only the last column depends on the index. -/
theorem cell?_index {f : Field} (other : f.name ≠ "extra_info") (row : Json.Members)
    (split : Split) (index : Nat) :
    cell? (ofRow row split index).toMembers f = cell? (ofRow row split 0).toMembers f := by
  have value : (ofRow row split index).toMembers.get? f.name =
      (ofRow row split 0).toMembers.get? f.name := by
    have skipped : ("extra_info" == f.name) = false := by simpa using other.symm
    simp only [toMembers, ofRow, Json.Members.get?, List.find?_cons, skipped]
  rw [cell?, cell?, value]

theorem withIndex_insert (split : Split) (index index' : Nat) (m : Json.Members) :
    Json.Members.withIndex index' (m.insert "extra_info" (infoJson split index)) =
      m.insert "extra_info" (infoJson split index') := by
  simp only [Json.Members.withIndex, Json.Members.get?_insert_self, infoJson, Option.bind_some,
    Json.obj?, Option.getD_some, Json.Members.insert_insert, Json.Members.insert_cons_self]

/-- What a file gives back for the record of a row, as if it were the first. -/
def storedRow? (raw : Schema) (split : Split) (row : Json.Members) : Option Json.Members :=
  (schema raw).stored? (ofRow row split 0).toMembers

theorem stored?_ofRow (raw : Schema) (row : Json.Members) (split : Split) (index : Nat) :
    (schema raw).stored? (ofRow row split index).toMembers =
      (storedRow? raw split row).map (Json.Members.withIndex index) := by
  have columns : (schema raw).columns = (schema raw).columns.dropLast ++ [infoColumn] := rfl
  have front : (schema raw).columns.dropLast.mapM (storedMember? (ofRow row split index).toMembers) =
      (schema raw).columns.dropLast.mapM (storedMember? (ofRow row split 0).toMembers) := by
    refine mapM_congr fun f member => ?_
    have other : f.name ≠ "extra_info" := by
      revert f
      simp [schema, Field.name]
    rw [storedMember?, storedMember?, cell?_index other]
  rw [storedRow?, Schema.stored?_eq, Schema.stored?_eq, columns, List.mapM_append, List.mapM_append, front]
  cases (schema raw).columns.dropLast.mapM (storedMember? (ofRow row split 0).toMembers) with
  | none => rfl
  | some members =>
    simp only [List.mapM_cons, List.mapM_nil, storedMember?_info, Option.pure_def,
      Option.bind_eq_bind, Option.bind_some, Option.map_some, List.filterMap_append,
      List.filterMap_cons, List.filterMap_nil, id, Json.Members.ofList_concat, withIndex_insert]

theorem storedMember?_of_empty {m : Json.Members} {name : String} {type : ColumnType}
    (value : m.get? name = some (.arr [])) (fits : (cell? m (.mk name type true)).isSome) :
    storedMember? m (.mk name type true) = some (some (name, .arr [])) := by
  have cell : cell? m (.mk name type true) = Cell.ofJson? true type (.arr []) := by
    rw [cell?, Field.name, value]
    rfl
  rw [cell] at fits
  rw [storedMember?, cell]
  cases type with
  | list item =>
    obtain ⟨name, item, nullable⟩ := item
    cases nullable <;> rfl
  | _ => simp [Cell.ofJson?] at fits

/-- A column that a raw table has or lacks gives the same back where it has the type of that table, or
any type that empty lists fit. -/
theorem storedMember?_carried {m : Json.Members} {name : String} {item : ColumnType}
    (types : ∀ type, columnType? raw.columns name = some type →
      columnType? merged.columns name = some type)
    (empty : columnType? raw.columns name = none → m.get? name = some (.arr []))
    (fits : (cell? m (.mk name (carried merged name (.listOf item)) true)).isSome) :
    storedMember? m (.mk name (carried merged name (.listOf item)) true) =
      storedMember? m (.mk name (carried raw name (.listOf item)) true) := by
  have carried (s : Schema) : carried s name (.listOf item) =
      (columnType? s.columns name).getD (.listOf item) := rfl
  cases present : columnType? raw.columns name with
  | some type => rw [carried, carried, present, types type present]
  | none =>
    -- Another table may give the column any type, but an empty list fits list types only.
    have value := empty present
    rw [storedMember?_of_empty value fits, storedMember?_of_empty value]
    rw [carried, present, cell?, Field.name, value]
    rfl

/-- A record comes back the same where the raw table has more columns, if it fits there. -/
theorem storedRow?_of_more_columns {index : Nat}
    (types : ∀ name type, columnType? raw.columns name = some type →
      columnType? merged.columns name = some type)
    (missing : ∀ name, columnType? raw.columns name = none → row.get? name = none)
    (fits : ((schema merged).rowOfJson? (ofRow row split index).toMembers).isSome) :
    storedRow? merged split row = storedRow? raw split row := by
  have fits' : ∀ f ∈ (schema merged).columns, f.name ≠ "extra_info" →
      (cell? (ofRow row split 0).toMembers f).isSome := by
    intro f member other
    rw [Schema.rowOfJson?_eq] at fits
    rw [← cell?_index other row split index]
    exact isSome_mapM_iff.mp fits _ member
  -- Only these two columns take their types from the raw table.
  have same (name : String) (item : ColumnType) (other : name ≠ "extra_info")
      (column : .mk name (carried merged name (.listOf item)) true ∈ (schema merged).columns)
      (value : (ofRow row split 0).toMembers.get? name = some ((row.get? name).getD (.arr []))) :
      storedMember? (ofRow row split 0).toMembers
          (.mk name (carried merged name (.listOf item)) true) =
        storedMember? (ofRow row split 0).toMembers
          (.mk name (carried raw name (.listOf item)) true) := by
    refine storedMember?_carried (types name) (fun lacks => ?_) (fits' _ column other)
    rw [value, missing name lacks, Option.getD_none]
  have names := same "names" .utf8 (by decide) (by simp [schema]) rfl
  have solution := same "solution" .bool (by decide) (by simp [schema]) rfl
  rw [storedRow?, storedRow?, Schema.stored?_eq, Schema.stored?_eq]
  simp only [schema, List.map_cons, List.map_nil, List.mapM_cons, names, solution]

end Record

end PuzzlePrep

import PuzzlePrep.Table.Rows

namespace PuzzlePrep

namespace ColumnType

def plainTypes : List (String × ColumnType) :=
  [("utf8", .utf8), ("large_utf8", .largeUtf8), ("int32", .int32), ("int64", .int64),
    ("uint64", .uint64), ("float32", .float32), ("float64", .float64), ("bool", .bool),
    ("null", .null)]

mutual

def toJson : ColumnType → Json
  | .utf8 => .str "utf8"
  | .largeUtf8 => .str "large_utf8"
  | .int32 => .str "int32"
  | .int64 => .str "int64"
  | .uint64 => .str "uint64"
  | .float32 => .str "float32"
  | .float64 => .str "float64"
  | .bool => .str "bool"
  | .null => .str "null"
  | .list (.mk name type nullable) =>
    .obj ([("list", toJson type)] ++ (if name = "item" then [] else [("item", .str name)]) ++
      (if nullable then [] else [("nullable", .bool false)]))
  | .struct members => .obj [("struct", .arr (fieldsJson members))]

def fieldJson : Field → Json
  | .mk name type nullable =>
    .obj ([("name", .str name), ("type", toJson type)] ++
      (if nullable then [] else [("nullable", .bool false)]))

def fieldsJson : Fields → List Json
  | .nil => []
  | .cons first rest => fieldJson first :: fieldsJson rest

end

def mayBeNull (j : Json) : Bool := ((j.get "nullable").bool?).getD true

def ofJsonWithin? : Nat → Json → Option ColumnType
  | 0, _ => none
  | fuel + 1, j =>
    match j with
    | .str name => plainTypes.lookup name
    | j =>
      match j.get "struct" with
      | .arr members => do
        let fields ← members.mapM fun m => do
          return Field.mk (← (m.get "name").str?) (← ofJsonWithin? fuel (m.get "type")) (mayBeNull m)
        return .struct (Fields.ofList fields)
      | _ => do
        let item ← ofJsonWithin? fuel (j.get "list")
        return .list (.mk (((j.get "item").str?).getD "item") item (mayBeNull j))

def depthLimit : Nat := 100

end ColumnType

namespace Field

def ofJson? (j : Json) : Option Field := do
  return .mk (← (j.get "name").str?)
    (← ColumnType.ofJsonWithin? ColumnType.depthLimit (j.get "type")) (ColumnType.mayBeNull j)

end Field

namespace Schema

def columnsJson (s : Schema) : Json := .arr (s.columns.map ColumnType.fieldJson)

def notesJson (s : Schema) : Json :=
  .obj (Json.Members.ofList (s.metadata.map fun (key, note) => (key, .str note)))

def ofJson? (j : Json) : Option Schema := do
  let columns ← (← (j.get "schema").arr?).mapM Field.ofJson?
  let notes := ((j.get "metadata").obj?).getD []
  return ⟨columns, notes.filterMap fun (key, note) => note.str?.map (key, ·)⟩

end Schema

namespace Table

def ofJson? (j : Json) : Option Table := do
  let schema ← Schema.ofJson? j
  let batches ← match j.get "batches", j.get "rows" with
    | .arr batches, _ => batches.mapM Json.arr?
    | _, .arr rows => some [rows]
    | _, _ => some []
  let read (rows : List Json) : Option (List Row) :=
    rows.mapM fun row => row.obj?.bind schema.rowOfJson?
  let batches ← batches.mapM read
  return ⟨schema, batches.filter (!·.isEmpty)⟩

def toJson (t : Table) : Json :=
  let batches := t.batches.map fun rows => Json.arr (rows.map fun r => .obj (t.schema.rowJson r))
  .obj ([("schema", t.schema.columnsJson)] ++
    (if t.schema.metadata.isEmpty then [] else [("metadata", t.schema.notesJson)]) ++
    [("batches", .arr batches)])

end Table

end PuzzlePrep

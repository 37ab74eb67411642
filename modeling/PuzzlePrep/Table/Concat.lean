import PuzzlePrep.Failure

namespace PuzzlePrep

namespace Schema

def addColumn : List Field → Field → Except Failure (List Field)
  | [], f => .ok [f]
  | g :: rest, f =>
    if g.name = f.name then
      if g.type = f.type then .ok (g.withNullable (g.nullable || f.nullable) :: rest)
      else .error (.typeConflict f.name g.type f.type)
    else (addColumn rest f).map (g :: ·)

def unite (schemas : List Schema) : Except Failure (List Field) :=
  (schemas.flatMap Schema.columns).foldlM addColumn []

def relax (schemas : List Schema) (f : Field) : Field :=
  if schemas.all (·.names.contains f.name) then f else f.withNullable true

end Schema

namespace Table

def conform (source : Schema) (columns : List Field) (r : Row) : Row :=
  columns.map fun f => cellOf source f.name r

/-- The tables row by row, in order; the batches stay as they are. Rows without any column are
refused, and so is null in a column that may not be null. -/
def concat (tables : List Table) : Except Failure Table := do
  let schemas := tables.map Table.schema
  let columns ← Schema.unite schemas
  let columns := columns.map (Schema.relax schemas)
  let batches := tables.flatMap fun t => t.batches.map fun b => b.map (conform t.schema columns)
  if (columns.isEmpty && !batches.isEmpty) || !batches.all (·.all (fits columns)) then
    throw .rowsDoNotFit
  return ⟨⟨columns, []⟩, batches⟩

end Table

end PuzzlePrep

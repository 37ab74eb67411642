import PuzzlePrep.Table.Basic

namespace PuzzlePrep

namespace ColumnType

def zero : ColumnType → Cell
  | .utf8 | .largeUtf8 => .text ""
  | .int32 | .int64 | .uint64 => .whole 0
  | .float32 | .float64 => .real (.zero false)
  | .bool => .bool false
  | _ => .null

end ColumnType

namespace Cell

/-- The items of a list whose items are never null, as they come back. -/
def settle? (zero : Cell) : List Cell → Option (List Cell)
  | [] => some []
  | [.null] => some []
  | .null :: _ => none
  | first :: rest => some (first :: rest.map fun c => if c.isNull then zero else c)

mutual

def restored? (t : ColumnType) : Cell → Option Cell
  | .list items =>
    match t with
    | .list (.mk _ item true) => (allRestored? item items).map .list
    | .list (.mk _ item false) => ((allRestored? item items).bind (settle? item.zero)).map .list
    | _ => none
  | .record members =>
    match t with
    | .struct fields => (membersRestored? fields members).map .record
    | _ => none
  | c => some c

def allRestored? (t : ColumnType) : List Cell → Option (List Cell)
  | [] => some []
  | c :: rest => do return (← restored? t c) :: (← allRestored? t rest)

def membersRestored? (fields : Fields) : List Cell → Option (List Cell)
  | [] => some []
  | c :: rest =>
    match fields with
    | .nil => none
    | .cons f fields => do return (← restored? f.type c) :: (← membersRestored? fields rest)

end

end Cell

namespace Table

def restored? (t : Table) : Option Table := do
  let fields := Fields.ofList t.schema.columns
  return { t with batches := ← t.batches.mapM fun b => b.mapM (Cell.membersRestored? fields) }

end Table

end PuzzlePrep

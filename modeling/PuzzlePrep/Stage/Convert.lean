import PuzzlePrep.Answer.Block
import PuzzlePrep.Answer.Format
import PuzzlePrep.Record.OfRow
import PuzzlePrep.Table.File
import PuzzlePrep.Table.Rows

namespace PuzzlePrep

structure Preview where
  checked : Nat
  issues : Nat
  structureFailures : Nat
  deriving DecidableEq, Repr

structure Summary where
  input : Path
  output : Path
  split : Split
  rows : Nat
  preview : Preview

namespace Record

def badStructure (r : Record) : Bool := !inGoodOrder r.response.content.toList

def badAnswer (r : Record) : Bool :=
  match firstAnswer? r.response.content.toList with
  | some answer => !isAnswer r.expectedLines answer
  | none => true

def ofRows (rows : List Json.Members) (split : Split) : List Record :=
  rows.zipIdx.map fun (row, i) => ofRow row split i

def preview (records : List Record) (limit : Nat) : Preview :=
  let first := records.take limit
  ⟨first.length, first.countP badAnswer, first.countP badStructure⟩

def messageType : ColumnType := .recordOf [("role", .utf8), ("content", .utf8)]

def carried (raw : Schema) (name : String) (fallback : ColumnType) : ColumnType :=
  ((raw.column? name).map Field.type).getD fallback

/-- The columns of training data. Names and solution keep the types of the raw columns. -/
def schema (raw : Schema) : Schema :=
  let truth := ColumnType.recordOf [("solution_text_format", .utf8), ("statements", .utf8)]
  let columns : List (String × ColumnType) :=
    [("data_source", .utf8),
     ("prompt", .listOf messageType),
     ("response", messageType),
     ("names", carried raw "names" (.listOf .utf8)),
     ("solution", carried raw "solution" (.listOf .bool)),
     ("solution_text", .utf8),
     ("ability", .utf8),
     ("reward_model", .recordOf [("style", .utf8), ("ground_truth", truth)]),
     ("extra_info", .recordOf [("split", .utf8), ("index", .int64)])]
  ⟨columns.map fun (name, type) => .mk name type true, []⟩

def toTable (records : List Record) (s : Schema) : Except Failure Table :=
  match records.mapM fun r => s.rowOfJson? r.toMembers with
  | some rows => .ok ⟨s, Table.batchesOf rows⟩
  | none => .error .rowsDoNotFit

end Record

namespace Disk

def convert (input output : Path) (split : Split) (previewed : Nat) : Disk Summary := do
  if !(← get).has input then throw (.noInput input.text)
  let raw ← readTable input
  let records := Record.ofRows (raw.load none).rows split
  match Record.toTable records (Record.schema raw.schema) with
  | .error f => throw f
  | .ok table =>
    writeTable output table
    return ⟨input, output, split, records.length, Record.preview records previewed⟩

end Disk

end PuzzlePrep

import PuzzlePrep.Files.Atomic
import PuzzlePrep.Table.Restored
import PuzzlePrep.Table.Rows

namespace PuzzlePrep

namespace Tree

def written (t : Tree) (p : Path) : Except Failure Table :=
  match t.find p with
  | .error f => .error (.cannotOpen p.text f)
  | .ok (_, .directory) => .error .notATable
  | .ok (_, .file content _) =>
    match content.table? with
    | some table => .ok table
    | none => .error .notATable

def table (t : Tree) (p : Path) : Except Failure Table := do
  match (← t.written p).restored? with
  | some table => return table
  | none => throw .brokenList

def schema (t : Tree) (p : Path) : Except Failure Schema := (t.written p).map Table.schema

def rowCount (t : Tree) (p : Path) : Except Failure Nat :=
  match t.written p with
  | .ok table => .ok table.rowCount
  | .error (.cannotOpen _ f) => .error (.io f)
  | .error f => .error f

end Tree

namespace Table

def fileContent (t : Table) : Except Failure Content :=
  if t.schema.columns.all (·.type.storable) then .ok (.ofTable t) else .error .notStorable

end Table

namespace Disk

def readTable (p : Path) : Disk Table := do
  match (← get).table p with
  | .ok table => return table
  | .error f => throw f

def loadTable (p : Path) (limit : Option Nat) : Disk Table.Loaded :=
  return (← readTable p).load limit

def writeTable (p : Path) (t : Table) : Disk Unit := writeAtomically p t.fileContent

end Disk

end PuzzlePrep

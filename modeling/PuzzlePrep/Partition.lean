import PuzzlePrep.Failure
import PuzzlePrep.Json.Value

namespace PuzzlePrep

def Partition.isSegment (s : String) : Bool :=
  s != "" && s != "." && s != ".." && !s.toList.contains '/' && !s.toList.contains '\\'

structure Partition where
  name : String
  segment : Partition.isSegment name = true
  deriving DecidableEq

namespace Partition

def ofName (s : String) : Except Failure Partition :=
  if h : Partition.isSegment s = true then .ok ⟨s, h⟩
  else if s = "" then .error .emptyPartition
  else .error (.nestedPartition s)

def ofJson? (j : Json) : Option Partition := do (ofName (← j.str?)).toOption

def ofNames (names : List String) : Except Failure (List Partition) := names.mapM ofName

theorem name_injective {p q : Partition} (h : p.name = q.name) : p = q := by
  cases p; cases q; simp_all

theorem ofName_name (p : Partition) : ofName p.name = .ok p := by
  simp [ofName, p.segment]

end Partition

end PuzzlePrep

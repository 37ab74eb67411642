import PuzzlePrep.Layout
import PuzzlePrep.Table.Concat
import PuzzlePrep.Table.File

namespace PuzzlePrep

structure SourceRows where
  partition : Partition
  rows : Nat

inductive MergeOutcome
  | written (path : Path) (rows : Nat) (sources : List SourceRows)
  | noData

structure MergeReport where
  output : Partition
  splits : List (Split × MergeOutcome)

namespace MergeReport

def outcome? (r : MergeReport) (s : Split) : Option MergeOutcome := r.splits.lookup s

end MergeReport

namespace Tree

/-- The tables that the sources have of a split; a source without the file is passed over. -/
def sourceTables (t : Tree) (l : Layout) (split : Split) :
    List Partition → Except Failure (List (Partition × Table))
  | [] => .ok []
  | p :: rest =>
    if t.has (l.file p split) then do
      let table ← t.table (l.file p split)
      let others ← sourceTables t l split rest
      return (p, table) :: others
    else sourceTables t l split rest

end Tree

namespace Disk

def mergeSplit (l : Layout) (sources : List Partition) (output : Partition) (split : Split) :
    Disk MergeOutcome := do
  match (← get).sourceTables l split sources with
  | .error f => throw f
  | .ok [] => return .noData
  | .ok found =>
    match Table.concat (found.map Prod.snd) with
    | .error f => throw f
    | .ok merged =>
      let path := l.file output split
      writeTable path merged
      return .written path merged.rowCount (found.map fun (p, t) => ⟨p, t.rowCount⟩)

def merge (l : Layout) (sources : List Partition) (output : Partition) : Disk MergeReport := do
  let splits ← Split.staged.mapM fun s => do
    return (s, ← mergeSplit l sources output s)
  return ⟨output, splits⟩

end Disk

end PuzzlePrep

import PuzzlePrep.Layout
import PuzzlePrep.Table.File

namespace PuzzlePrep

inductive FileState
  | missing
  | readable (rows : Nat)
  | unreadable (reason : Failure)

namespace FileState

def summary : FileState → String
  | .missing => "missing"
  | .readable rows => toString rows ++ " rows"
  | .unreadable _ => "unreadable"

end FileState

structure FileStatus where
  path : Path
  state : FileState

structure SplitStatus where
  partition : Partition
  split : Split
  raw : FileStatus
  processed : FileStatus

structure InspectReport where
  rawRoot : Path
  processedRoot : Path
  entries : List SplitStatus

namespace InspectReport

def entry? (r : InspectReport) (partition : String) (split : Split) : Option SplitStatus :=
  r.entries.find? fun e => e.partition.name == partition && e.split == split

end InspectReport

namespace Tree

def status (t : Tree) (p : Path) : FileStatus where
  path := p
  state :=
    if t.has p then
      match t.rowCount p with
      | .ok rows => .readable rows
      | .error f => .unreadable f
    else .missing

def inspect (t : Tree) (raw processed : Layout) (partitions : List Partition) : InspectReport where
  rawRoot := raw.root
  processedRoot := processed.root
  entries :=
    partitions.flatMap fun p =>
      Split.staged.map fun s => ⟨p, s, t.status (raw.file p s), t.status (processed.file p s)⟩

end Tree

end PuzzlePrep

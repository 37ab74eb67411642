import PuzzlePrep.Files.Disk
import PuzzlePrep.Layout

namespace PuzzlePrep

structure Request where
  url : String
  answered : Bool

structure Job where
  input : Path
  output : Path
  split : Split
  preview : Nat
  deriving DecidableEq

structure World where
  tree : Tree
  requests : List Request := []
  jobs : List Job := []
  shown : ByteArray := ByteArray.empty
  complained : ByteArray := ByteArray.empty

/-- A computation that changes the world and may fail; what it has done before stays done. -/
abbrev Stage := ExceptT Failure (StateM World)

namespace Stage

def onTree {α : Type} (d : Disk α) : Stage α := do
  let w ← get
  let (result, tree) := d.run.run w.tree
  set { w with tree }
  match result with
  | .ok a => return a
  | .error f => throw f

def tree : Stage Tree := return (← get).tree

end Stage

end PuzzlePrep

import PuzzlePrep.Files.Disk

namespace PuzzlePrep

def Path.temporary (p : Path) : Path := p.withFileName ((p.fileName?.getD "") ++ ".tmp")

namespace Disk

def abandon {α : Type} (sibling : Path) (f : Failure) : Disk α := do
  tryCatch (removeFile sibling) fun _ => return
  throw f

/-- Writes what a writer gives, as a whole; missing directories above the file are made. -/
def writeAtomically (p : Path) (write : Except Failure Content) : Disk Unit := do
  if let some parent := p.parent? then makeDirectories parent
  let sibling := p.temporary
  let l ← createFile sibling
  match write with
  | .error f => abandon sibling f
  | .ok content =>
    fill l content
    tryCatch (rename sibling p) (abandon sibling)

end Disk

end PuzzlePrep

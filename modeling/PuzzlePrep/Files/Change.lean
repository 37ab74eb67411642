import PuzzlePrep.Files.Stored

namespace PuzzlePrep

inductive Change
  | removed (l : Location)
  | directory (l : Location)
  | file (l : Location) (data : ByteArray) (executable : Bool)

namespace Entry

def agrees : Entry → Entry → Bool
  | .directory, .directory => true
  | .file content executable, .file content' executable' =>
    content.stored.data = content'.stored.data && executable == executable'
  | _, _ => false

theorem agrees_self (e : Entry) : e.agrees e := by
  cases e <;> simp [agrees]

def made (l : Location) : Entry → Change
  | .directory => .directory l
  | .file content executable => .file l content.stored executable

end Entry

namespace Tree

/-- The location must be cleared: nothing is there any more, or something of another kind. -/
def cleared (after : Tree) (l : Location) (e : Entry) : Bool :=
  match after.get? l with
  | none => true
  | some e' => e.isDirectory != e'.isDirectory

def lacks (before : Tree) (l : Location) (e : Entry) : Bool :=
  !(before.get? l).any e.agrees

def changes (before after : Tree) : List Change :=
  let gone := before.entries.filter fun (l, e) => after.cleared l e
  let new := after.entries.filter fun (l, e) => before.lacks l e
  let upwards := gone.mergeSort fun a b => b.1.length ≤ a.1.length
  let downwards := new.mergeSort fun a b => a.1.length ≤ b.1.length
  upwards.map (fun (l, _) => .removed l) ++ downwards.map fun (l, e) => e.made l

end Tree

end PuzzlePrep

import PuzzlePrep.Files.Fault
import PuzzlePrep.Files.Path
import PuzzlePrep.Files.Tree

namespace PuzzlePrep

/-- Where a path leads: to a directory by dots or the root, or to a name in a directory. -/
inductive Spot
  | directory (l : Location)
  | named (parent : Location) (name : String) (slash : Bool)

namespace Tree

def nameLimit : Nat := 255

def pathLimit : Nat := 4095

def look (t : Tree) (here : Location) (name : String) : Except Fault (Option Entry) :=
  if nameLimit < name.utf8ByteSize then .error .nameTooLong else .ok (t.get? (here ++ [name]))

def enter (t : Tree) (here : Location) (part : List Char) : Except Fault Location :=
  if Path.silent part then .ok here
  else if part == ['.', '.'] then .ok here.dropLast
  else
    let name := String.ofList part
    match t.look here name with
    | .error f => .error f
    | .ok none => .error .missing
    | .ok (some (.file ..)) => .error .notDirectory
    | .ok (some .directory) => .ok (here ++ [name])

def walk (t : Tree) (here : Location) (parts : List (List Char)) : Except Fault Location :=
  parts.foldlM t.enter here

/-- Where the parts of a path lead; `slash` tells whether slashes follow them. -/
def spotOf (t : Tree) (start : Location) (slash : Bool) (parts : List (List Char)) :
    Except Fault Spot :=
  match parts.getLast? with
  | none => .ok (.directory start)
  | some last => do
    let parent ← t.walk start parts.dropLast
    if last == ['.'] || last == ['.', '.'] then return .directory (← t.enter parent last)
    else
      let name := String.ofList last
      if nameLimit < name.utf8ByteSize then throw .nameTooLong
      return .named parent name slash

def spot (t : Tree) (p : Path) : Except Fault Spot :=
  if p.text.toList.contains '\x00' then .error .nulInPath
  else if p.text = "" then .error .missing
  else if pathLimit < p.text.utf8ByteSize then .error .nameTooLong
  else
    let parts := (p.parts.reverse.dropWhile List.isEmpty).reverse
    let start := if p.isAbsolute then [] else t.workdir
    t.spotOf start (parts.length < p.parts.length) parts

def find (t : Tree) (p : Path) : Except Fault (Location × Entry) := do
  match ← t.spot p with
  | .directory l => return (l, .directory)
  | .named parent name slash =>
    let l := parent ++ [name]
    match t.get? l with
    | none => throw .missing
    | some .directory => return (l, .directory)
    | some (.file content executable) =>
      if slash then throw .notDirectory else return (l, .file content executable)

def has (t : Tree) (p : Path) : Bool := (t.find p).isOk

def hasDirectory (t : Tree) (p : Path) : Bool :=
  match t.find p with
  | .ok (_, .directory) => true
  | _ => false

def hasFile (t : Tree) (p : Path) : Bool :=
  match t.find p with
  | .ok (_, .file ..) => true
  | _ => false

end Tree

end PuzzlePrep

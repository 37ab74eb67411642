import PuzzlePrep.Failure
import PuzzlePrep.Files.Walk

/-!
Operations on a tree of files by path. None is refused for want of permission or of room, and no path is
led elsewhere by a symbolic link. What an operation has done before it fails stays done.
-/

namespace PuzzlePrep

abbrev Disk := ExceptT Failure (StateM Tree)

namespace Disk

def refuse {α : Type} (f : Fault) : Disk α := throw (.io f)

def inspect {α : Type} (look : Tree → Except Fault α) : Disk α := do
  match look (← get) with
  | .ok a => return a
  | .error f => refuse f

def spot (p : Path) : Disk Spot := inspect (·.spot p)

def makeDirectory (p : Path) : Disk Unit := do
  match ← spot p with
  | .directory _ => refuse .exists
  | .named parent name _ =>
    let l := parent ++ [name]
    match (← get).get? l with
    | some _ => refuse .exists
    | none => modify (·.put l .directory)

def ensureDirectory (p : Path) : Disk Unit :=
  tryCatch (makeDirectory p) fun f => do
    if (← get).hasDirectory p then return else throw f

/-- Makes a directory and, where something on the way to it is missing, its parents. `fuel` bounds
the number of parents. -/
def makeDirectoriesWithin : Nat → Path → Disk Unit
  | 0, _ => return
  | fuel + 1, p => do
    if p.text = "" then return
    tryCatch (ensureDirectory p) fun f => do
      if f = .io .missing then
        match p.parent? with
        | none => throw f
        | some parent =>
          makeDirectoriesWithin fuel parent
          ensureDirectory p
      else throw f

def makeDirectories (p : Path) : Disk Unit := makeDirectoriesWithin (p.text.length + 1) p

def createFile (p : Path) : Disk Location := do
  match ← spot p with
  | .directory _ => refuse .isDirectory
  | .named parent name slash =>
    let l := parent ++ [name]
    match (← get).get? l with
    | some .directory => refuse .isDirectory
    | some (.file _ executable) =>
      if slash then refuse .notDirectory
      else
        modify (·.put l (.file .empty executable))
        return l
    | none =>
      if slash then refuse .isDirectory
      else
        modify (·.put l (.file .empty false))
        return l

def fill (l : Location) (content : Content) : Disk Unit :=
  modify fun t =>
    match t.get? l with
    | some (.file _ executable) => t.put l (.file content executable)
    | _ => t

def writeFile (p : Path) (content : Content) : Disk Unit := do
  fill (← createFile p) content

def removeFile (p : Path) : Disk Unit := do
  match ← inspect (·.find p) with
  | (_, .directory) => refuse .isDirectory
  | (l, .file ..) => modify (·.drop l)

def remove (p : Path) : Disk Unit := do
  let (l, _) ← inspect (·.find p)
  modify (·.prune l)

/-- Moves a file over another path; a directory is never replaced. -/
def rename (source target : Path) : Disk Unit := do
  let origin ← spot source
  let goal ← spot target
  match origin, goal with
  | .named parent name _, .named parent' name' slash =>
    let l := parent ++ [name]
    let l' := parent' ++ [name']
    match (← get).get? l with
    | none => refuse .missing
    | some e =>
      if slash && !e.isDirectory then refuse .notDirectory
      else
        match (← get).get? l' with
        | some .directory => refuse .isDirectory
        | _ => modify fun t => (t.drop l).put l' e
  | _, _ => refuse .occupied

def readText (p : Path) : Disk String := do
  match ← inspect (·.find p) with
  | (_, .directory) => refuse .isDirectory
  | (_, .file content _) =>
    match content.text? with
    | some s => return s
    | none => refuse .notText

end Disk

end PuzzlePrep

import PuzzlePrep.Cli.Reach
import PuzzlePrep.Cli.Run
import PuzzlePrep.Files.Change
import PuzzlePrep.Shell.System

namespace PuzzlePrep.Main

def onDisk (l : Location) : IO.FS.DirEntry := ⟨"/", String.intercalate "/" l⟩

def isScript (data : ByteArray) : Bool := data.extract 0 2 == "#!".toUTF8

partial def entriesAt (l : Location) : IO (List (Location × Entry)) := do
  let place := (onDisk l).path
  try
    match (← place.symlinkMetadata).type with
    | .file =>
      let data ← IO.FS.readBinFile place
      return [(l, .file (.ofStored data) (isScript data))]
    | .dir =>
      let names := (← place.readDir).toList.map (·.fileName)
      let below ← names.mapM fun name => entriesAt (l ++ [name])
      return (l, .directory) :: below.flatten
    | _ => return []
  catch _ => return []

def entriesAbove (l : Location) : IO (List (Location × Entry)) := do
  let groups ← (Cli.above l).mapM fun m => do
    return (m, .directory) :: (← entriesAt (m ++ [".env"]))
  return groups.flatten

def environment : IO Environment := do
  let data ← try IO.FS.readBinFile "/proc/self/environ" catch _ => pure .empty
  return ((Text.lossy data).splitOn "\x00").filterMap fun s =>
    match s.toList.span (· != '=') with
    | (name, _ :: value) => some (String.ofList name, String.ofList value)
    | _ => none

def store : Change → IO Unit
  | .removed l => do
    let place := (onDisk l).path
    match (← place.symlinkMetadata).type with
    | .dir => IO.FS.removeDirAll place
    | _ => IO.FS.removeFile place
  | .directory l => IO.FS.createDirAll (onDisk l).path
  | .file l data executable => do
    IO.FS.writeBinFile (onDisk l).path data
    if executable then
      let all : IO.AccessRight := ⟨true, true, true⟩
      let most : IO.AccessRight := ⟨true, false, true⟩
      IO.setAccessRights (onDisk l).path ⟨all, most, most⟩

def run (arguments : List String) : IO UInt32 := do
  let start := Cli.reached [] ⟨(← IO.currentDir).toString⟩
  let env ← environment
  let places := Cli.places start env arguments
  let entries := (← places.mapM entriesAt) ++ (← places.mapM entriesAbove)
  let before : Tree := ⟨start, entries.flatten⟩
  let input ← if Cli.readsInput arguments then (← IO.getStdin).readToEnd else pure ""
  let surroundings : Cli.Surroundings := ⟨Shell.programs, fun _ _ => .refused, env, input⟩
  let (ending, world) := (Cli.execute surroundings arguments).run ⟨before, [], [], .empty, .empty⟩
  (before.changes world.tree).forM store
  (← IO.getStdout).write world.shown
  (← IO.getStderr).write world.complained
  if let some complaint := ending.complaint then IO.eprintln complaint.text
  return UInt32.ofNat ending.code

def start (arguments : List String) : IO UInt32 := do
  match Cli.parse? arguments with
  | none =>
    IO.eprintln Cli.usage
    return 2
  | some .help =>
    IO.println Cli.usage
    return 0
  | some _ => run arguments

end PuzzlePrep.Main

def main (arguments : List String) : IO UInt32 := PuzzlePrep.Main.start arguments

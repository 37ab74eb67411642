import PuzzlePrep.Shell.Tools

namespace PuzzlePrep.Shell

def usualPath : String := "/usr/local/sbin:/usr/local/bin:/usr/sbin:/usr/bin:/sbin:/bin"

def programDirectories : List String := ["/bin", "/usr/bin"]

inductive Executable
  | tool (name : String)
  | shell
  | environmentTool
  | file (path : String) (content : Content)

def Executable.ofName? (name : String) : Option Executable :=
  if name = "sh" || name = "dash" then some .shell
  else if name = "env" then some .environmentTool
  else if (Tool.table.lookup name).isSome then some (.tool name)
  else none

def executableAt (t : Tree) (path : String) : Except Fault Executable :=
  let known := if programDirectories.any fun d => d ++ "/" ++ Tool.baseName path = path then
    Executable.ofName? (Tool.baseName path) else none
  match known, t.find ⟨path⟩ with
  | some e, _ => .ok e
  | none, .error f => .error f
  | none, .ok (_, .directory) => .error .denied
  | none, .ok (_, .file content executable) =>
    if executable then .ok (.file path content) else .error .denied

def locate (t : Tree) (searched program : String) : Except Fault Executable :=
  if program.toList.contains '/' then executableAt t program
  else if program = "" then .error .missing
  else
    let found := (searched.splitOn ":").map fun d =>
      executableAt t (if d = "" then program else d ++ "/" ++ program)
    match found.findSome? Except.toOption with
    | some e => .ok e
    | none =>
      .error (if found.any fun r => r matches .error .denied then .denied else .missing)

def interpreterLine? (content : Content) : Option (String × List String) :=
  match content with
  | .table .. => none
  | .bytes data =>
    match (Text.lossy (data.extract 0 256)).toList with
    | '#' :: '!' :: cs =>
      let blank : Char → Bool := fun c => c == ' ' || c == '\t'
      let line := (cs.takeWhile (· != '\n')).dropWhile blank
      let program := line.takeWhile (!blank ·)
      let argument := (line.dropWhile (!blank ·)).dropWhile blank
      let argument := (argument.reverse.dropWhile blank).reverse
      if program.isEmpty then none
      else some (String.ofList program, if argument.isEmpty then [] else [String.ofList argument])
    | _ => none

end PuzzlePrep.Shell

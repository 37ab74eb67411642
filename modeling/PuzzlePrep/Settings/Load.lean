import PuzzlePrep.Files.Disk
import PuzzlePrep.Settings.Decode
import PuzzlePrep.Settings.Environment
import PuzzlePrep.Toml.Parser

namespace PuzzlePrep

namespace Settings

def userFile? (env : Environment) : Option Path :=
  let configured := (env.lookup "XDG_CONFIG_HOME").map Path.mk |>.filter Path.isAbsolute
  let usual := (env.lookup "HOME").filter (· != "") |>.map fun home => (Path.mk home) / ".config"
  (configured <|> usual).map fun dir => dir / "logicrl" / "config.toml"

def upward (l : Location) : List Location :=
  (List.range (l.length + 1)).map fun i => l.take (l.length - i)

/-- The content of a file; a relative path is looked for in the working directory, then in those
above it. -/
def fileContent? (t : Tree) (p : Path) : Option Content :=
  let places := if p.isAbsolute then [t.workdir] else upward t.workdir
  places.findSome? fun workdir =>
    match { t with workdir }.find p with
    | .ok (_, .file content _) => some content
    | _ => none

def layerOf (t : Tree) (p : Path) : Except SettingFault Setting :=
  match fileContent? t p with
  | none => .ok (.table [])
  | some content =>
    match content.text?.bind Toml.parse? with
    | some layer => .ok layer
    | none => .error .unreadable

/-- The layer of a file that need not be there; the file is looked for at its path only. -/
def layerIfThere (t : Tree) (p : Option Path) : Except SettingFault Setting :=
  match p.filter t.has with
  | some p => layerOf t p
  | none => .ok (.table [])

def layerAsked (t : Tree) (p : Option Path) : Except SettingFault Setting :=
  match p with
  | some p => layerOf t p
  | none => .ok (.table [])

def layers (t : Tree) (env : Environment) (workspace file : Option Path) :
    Except SettingFault (List Setting) := do
  let user ← layerIfThere t (userFile? env)
  let nearby ← layerIfThere t (workspace.map workspaceFile)
  let asked ← layerAsked t file
  return [user, nearby, asked, Setting.ofEnvironment env]

def stack (layers : List Setting) : Setting := layers.foldl Setting.atop (.table [])

def load (t : Tree) (env : Environment) (workspace file : Option Path) :
    Except SettingFault Settings := do
  ofSetting (stack (← layers t env workspace file))

end Settings

end PuzzlePrep

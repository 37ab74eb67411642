import PuzzlePrep.Program.Invocation

namespace PuzzlePrep

structure Interpreter where
  program : Path
  venv : Option Path
  workspace : Path

namespace Interpreter

def detect (t : Tree) (env : Environment) (workspace : Path) : Option Path :=
  let active := (env.lookup "VIRTUAL_ENV").map Path.mk
  match active.filter t.has with
  | some venv => some venv
  | none =>
    ([".venv", "venv"].map (workspace / ·)).find? fun venv => t.has (venv / "bin" / "python")

def configure (t : Tree) (env : Environment) (program : Path) (venv : Option Path)
    (workspace : Path) : Interpreter :=
  ⟨program, venv <|> detect t env workspace, workspace⟩

def withoutVenv (i : Interpreter) : Interpreter := { i with venv := none }

def command (i : Interpreter) : Path :=
  match i.venv with
  | some venv => venv / "bin" / "python"
  | none => i.program

end Interpreter

end PuzzlePrep

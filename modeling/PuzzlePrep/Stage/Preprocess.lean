import PuzzlePrep.Program.Interpreter
import PuzzlePrep.Stage.Convert
import PuzzlePrep.Stage.World
import PuzzlePrep.Text.Blank
import PuzzlePrep.Text.Lossy

namespace PuzzlePrep

structure Routine where
  name : String
  run : Job → Stage Unit

structure ScriptOutput where
  output : String
  complaints : String

namespace Stage

def runScript (programs : Programs) (env : Environment) (i : Interpreter) (script : Path)
    (arguments : List String) (limit : Nat) : Stage ScriptOutput := do
  let program := i.command.text
  let w ← get
  match programs w.tree ⟨program, script.text :: arguments, i.workspace, env, some limit⟩ with
  | .notStarted f => throw (.notStarted .routine program f)
  | .tooSlow after =>
    set { w with tree := after }
    throw (.scriptTooSlow script.text (limit / 1000))
  | .finished status output complaints after =>
    set { w with tree := after }
    let complaints := Text.lossy complaints
    if status.isSuccess then return ⟨Text.lossy output, complaints⟩
    else throw (.scriptFailed script.text status.text (Text.trimString complaints))

end Stage

namespace Job

def arguments (j : Job) : List String :=
  ["--input", j.input.text, "--output", j.output.text, "--split", j.split.name,
    "--preview", toString j.preview]

end Job

namespace Routine

def native : Routine where
  name := "native"
  run j := do
    let _ ← Stage.onTree (Disk.convert j.input j.output j.split j.preview)

def script (programs : Programs) (env : Environment) (i : Interpreter) (path : Path)
    (limit : Nat) : Routine where
  name := "script"
  run j := do
    let _ ← Stage.runScript programs env i path j.arguments limit

end Routine

inductive PreprocessOutcome
  | processed (input output : Path)
  | skipped (input : Path)

structure PreprocessRecord where
  partition : Partition
  split : Split
  outcome : PreprocessOutcome

namespace PreprocessOutcome

def isProcessed : PreprocessOutcome → Bool
  | .processed .. => true
  | .skipped _ => false

end PreprocessOutcome

structure Preprocessor where
  raw : Layout
  processed : Layout
  routine : Routine
  preview : Nat

namespace Preprocessor

def job (d : Preprocessor) (p : Partition) (s : Split) : Job :=
  ⟨d.raw.file p s, d.processed.file p s, s, d.preview⟩

def runOne (d : Preprocessor) (p : Partition) (s : Split) : Stage PreprocessRecord := do
  let job := d.job p s
  if (← Stage.tree).has job.input then
    modify fun w => { w with jobs := w.jobs ++ [job] }
    d.routine.run job
    return ⟨p, s, .processed job.input job.output⟩
  else return ⟨p, s, .skipped job.input⟩

def runPartition (d : Preprocessor) (p : Partition) : Stage (List PreprocessRecord) := do
  Stage.onTree (Disk.makeDirectories (d.processed.directory p))
  Split.staged.mapM (d.runOne p)

def runAll (d : Preprocessor) (partitions : List Partition) : Stage (List PreprocessRecord) :=
  return (← partitions.mapM d.runPartition).flatten

end Preprocessor

end PuzzlePrep

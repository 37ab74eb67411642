import PuzzlePrep.Program.Interpreter
import PuzzlePrep.Settings.Basic
import PuzzlePrep.Stage.World

namespace PuzzlePrep

structure Trainer where
  interpreter : Interpreter
  module : String
  trainFile : Path
  testFile : Path
  rewardFunction : Path
  overrides : List String

namespace Trainer

def partition (s : Settings) (given : Option Partition) : Except Failure Partition :=
  match given, s.train.partition with
  | some p, _ => .ok p
  | none, some name => Partition.ofName name
  | none, none => s.mergedPartition

def configure (t : Tree) (env : Environment) (s : Settings) (workspace : Path)
    (given : Option Partition) : Except Failure Trainer := do
  let p ← partition s given
  let data := s.processedLayout workspace
  return {
    interpreter :=
      Interpreter.configure t env s.train.interpreter s.preprocess.venv workspace
    module := s.train.module
    trainFile := data.file p .train
    testFile := data.file p .test
    rewardFunction := workspace.resolve s.train.rewardFunction
    overrides := s.train.overrides }

def arguments (t : Trainer) (extra : List String) : List String :=
  ["data.train_files=" ++ t.trainFile.text,
    "data.val_files=" ++ t.testFile.text,
    "custom_reward_function.path=" ++ t.rewardFunction.text] ++ t.overrides ++ extra

def commandLine (t : Trainer) (extra : List String) : String :=
  String.intercalate " " (t.interpreter.command.text :: "-m" :: t.module :: t.arguments extra)

def inputs (t : Trainer) : List Path := [t.trainFile, t.testFile]

def run (programs : Programs) (env : Environment) (t : Trainer) (extra : List String) :
    Stage Unit := do
  let w ← get
  match t.inputs.find? fun p => !w.tree.has p with
  | some p => throw (.noProcessedData p.text)
  | none =>
    let program := t.interpreter.command.text
    let arguments := "-m" :: t.module :: t.arguments extra
    match programs w.tree ⟨program, arguments, t.interpreter.workspace, env, none⟩ with
    | .notStarted f => throw (.notStarted .launch program f)
    | .tooSlow after => set { w with tree := after }
    | .finished status output complaints after =>
      let shown := w.shown ++ output
      let complained := w.complained ++ complaints
      set { w with tree := after, shown, complained }
      if !status.isSuccess then throw (.trainerFailed t.module status.text)

end Trainer

end PuzzlePrep

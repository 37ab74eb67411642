import PuzzlePrep.Layout

namespace PuzzlePrep

structure FetchSettings where
  baseUrl : String
  timeoutSecs : Nat

structure MergeSettings where
  sources : List String
  output : String

inductive RoutineKind
  | script
  | native
  deriving DecidableEq, Repr, Inhabited

structure PreprocessSettings where
  routine : RoutineKind
  interpreter : Path
  venv : Option Path
  script : Path
  preview : Nat
  timeoutSecs : Nat

structure TrainSettings where
  interpreter : Path
  module : String
  rewardFunction : Path
  partition : Option String
  overrides : List String

structure Settings where
  rawDir : Path
  processedDir : Path
  partitions : List String
  fetch : FetchSettings
  merge : MergeSettings
  preprocess : PreprocessSettings
  train : TrainSettings

namespace RoutineKind

def name : RoutineKind → String
  | .script => "script"
  | .native => "native"

def all : List RoutineKind := [.script, .native]

def ofName? (name : String) : Option RoutineKind := all.find? (·.name == name)

end RoutineKind

namespace Settings

def defaultPartitions : List String := ["3ppl", "4ppl", "5ppl", "6ppl", "7ppl"]

def defaultMergeSources : List String := ["3ppl", "4ppl", "5ppl"]

def defaultMergedPartition : String := "mix_3_4_5ppl"

def default : Settings where
  rawDir := ⟨"data/kk/instruct"⟩
  processedDir := ⟨"data/kk/processed"⟩
  partitions := defaultPartitions
  fetch :=
    { baseUrl := "https://raw.githubusercontent.com/Unakar/Logic-RL/main/data/kk/instruct"
      timeoutSecs := 300 }
  merge := ⟨defaultMergeSources, defaultMergedPartition⟩
  preprocess :=
    { routine := .script
      interpreter := ⟨"python3"⟩
      venv := none
      script := ⟨"recipe/LogicRL/preprocess.py"⟩
      preview := 5
      timeoutSecs := 3600 }
  train :=
    { interpreter := ⟨"python3"⟩
      module := "verl.trainer.main_ppo"
      rewardFunction := ⟨"recipe/LogicRL/reward_function.py"⟩
      partition := none
      overrides := [] }

def rawLayout (s : Settings) (workspace : Path) : Layout := ⟨workspace.resolve s.rawDir⟩

def processedLayout (s : Settings) (workspace : Path) : Layout :=
  ⟨workspace.resolve s.processedDir⟩

def fetchedPartitions (s : Settings) : Except Failure (List Partition) :=
  Partition.ofNames s.partitions

def mergeSources (s : Settings) : Except Failure (List Partition) :=
  Partition.ofNames s.merge.sources

def mergedPartition (s : Settings) : Except Failure Partition := Partition.ofName s.merge.output

def withPartition (ps : List Partition) (p : Partition) : List Partition :=
  if ps.contains p then ps else ps ++ [p]

def allPartitions (s : Settings) : Except Failure (List Partition) := do
  let fetched ← s.fetchedPartitions
  let merged ← s.mergedPartition
  return withPartition fetched merged

def validate (s : Settings) : Except Failure Unit := do
  let _ ← s.allPartitions
  let sources ← s.mergeSources
  if sources.isEmpty then throw .noMergeSources
  if sources.contains (← s.mergedPartition) then throw (.mergeIntoSource s.merge.output)
  if Text.allBlank s.fetch.baseUrl.toList then throw .blankBaseUrl

def workspaceFile (workspace : Path) : Path := workspace / ".logicrl" / "config.toml"

end Settings

end PuzzlePrep

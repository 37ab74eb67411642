import PuzzlePrep.Settings.Basic
import PuzzlePrep.Stage.Fetch
import PuzzlePrep.Stage.Inspect
import PuzzlePrep.Stage.Merge
import PuzzlePrep.Stage.Preprocess

namespace PuzzlePrep

structure PipelineReport where
  fetch : List FetchRecord
  merge : MergeReport
  preprocess : List PreprocessRecord

structure Pipeline where
  raw : Layout
  processed : Layout
  fetched : List Partition
  sources : List Partition
  merged : Partition
  fetcher : Fetcher
  preprocessor : Preprocessor

namespace Pipeline

def build (s : Settings) (workspace : Path) (routine : Routine) : Except Failure Pipeline := do
  s.validate
  let raw := s.rawLayout workspace
  let processed := s.processedLayout workspace
  return {
    raw, processed
    fetched := ← s.fetchedPartitions
    sources := ← s.mergeSources
    merged := ← s.mergedPartition
    fetcher := ⟨s.fetch.baseUrl, raw⟩
    preprocessor := ⟨raw, processed, routine, s.preprocess.preview⟩ }

def allPartitions (p : Pipeline) : List Partition := Settings.withPartition p.fetched p.merged

def fetch (p : Pipeline) (remote : Remote) : StateM World (List FetchRecord) :=
  p.fetcher.fetchAll remote p.fetched

def merge (p : Pipeline) : Stage MergeReport :=
  Stage.onTree (Disk.merge p.raw p.sources p.merged)

def preprocess (p : Pipeline) : Stage (List PreprocessRecord) :=
  p.preprocessor.runAll p.allPartitions

def inspect (p : Pipeline) (t : Tree) : InspectReport :=
  t.inspect p.raw p.processed p.allPartitions

def run (p : Pipeline) (remote : Remote) : Stage PipelineReport := do
  let fetch ← p.fetch remote
  let merge ← p.merge
  let preprocess ← p.preprocess
  return ⟨fetch, merge, preprocess⟩

end Pipeline

namespace Settings

def routine (s : Settings) (t : Tree) (programs : Programs) (env : Environment)
    (workspace : Path) : Routine :=
  match s.preprocess.routine with
  | .native => .native
  | .script =>
    let i := Interpreter.configure t env s.preprocess.interpreter s.preprocess.venv workspace
    .script programs env i (workspace.resolve s.preprocess.script)
      (s.preprocess.timeoutSecs * 1000)

end Settings

end PuzzlePrep

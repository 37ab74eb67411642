import PuzzlePrep.Cli.Arguments
import PuzzlePrep.Json.Printer
import PuzzlePrep.Settings.Dotenv
import PuzzlePrep.Settings.Encode
import PuzzlePrep.Settings.Load
import PuzzlePrep.Stage.Report
import PuzzlePrep.Stage.Train

namespace PuzzlePrep.Cli

structure Surroundings where
  programs : Programs
  remote : Remote
  environment : Environment
  input : String

structure Complaint where
  message : String
  cause : Option String := none

namespace Complaint

def text (c : Complaint) : String :=
  "Error: " ++ c.message ++
    (match c.cause with
      | some cause => "\n\nCaused by:\n    " ++ cause
      | none => "")

def ofFailure (f : Failure) : Complaint :=
  match f with
  | .io fault => ⟨f.message, some fault.message⟩
  | f => ⟨f.message, none⟩

def behind (remark : String) (f : Failure) : Complaint :=
  match f with
  | .io fault => ⟨remark, some fault.message⟩
  | f => ⟨remark, some f.message⟩

def bare (f : Failure) : Complaint :=
  match f with
  | .io fault => ⟨fault.message, none⟩
  | f => ofFailure f

end Complaint

abbrev Action := ExceptT Complaint (StateM World)

namespace Action

def print (text : String) : Action Unit :=
  modify fun w => { w with shown := w.shown ++ text.toUTF8 }

def printLine (text : String) : Action Unit := print (text ++ "\n")

def ofStage {α : Type} (s : Stage α) (complain : Failure → Complaint := Complaint.ofFailure) :
    Action α := do
  match ← (s.run : StateM World (Except Failure α)) with
  | .ok a => return a
  | .error f => throw (complain f)

def ofExcept {α : Type} (r : Except Failure α) : Action α := ofStage (ExceptT.mk (pure r))

end Action

structure Context where
  surroundings : Surroundings
  options : Options
  workspace : Path

namespace Context

def settings (c : Context) : Action Settings := do
  let w ← get
  match Settings.load w.tree c.surroundings.environment (some c.workspace) c.options.config with
  | .error f => throw ⟨"Configuration error: " ++ (f.message?.getD "unreadable file"), none⟩
  | .ok s =>
    return {
      s with
      rawDir := c.options.rawDir.getD s.rawDir
      processedDir := c.options.processedDir.getD s.processedDir
      preprocess := { s.preprocess with script := c.options.script.getD s.preprocess.script } }

def pipeline (c : Context) (routine : Option RoutineKind) : Action Pipeline := do
  let s ← c.settings
  let kind := routine.getD s.preprocess.routine
  let s := { s with preprocess := { s.preprocess with routine := kind } }
  let w ← get
  let routine := s.routine w.tree c.surroundings.programs c.surroundings.environment c.workspace
  Action.ofExcept (Pipeline.build s c.workspace routine)

end Context

def padded (width : Nat) (s : String) : String :=
  s ++ String.ofList (List.replicate (width - s.length) ' ')

def fetchCounts (records : List FetchRecord) : String :=
  let count (p : FetchStatus → Bool) : String := toString (records.countP fun r => p r.status)
  count FetchStatus.isDownloaded ++ " downloaded, " ++ count FetchStatus.isPresent ++
    " already present, " ++ count FetchStatus.isFailed ++ " failed"

def fetchLine (r : FetchRecord) : String :=
  let status := match r.status with
    | .alreadyPresent => "present"
    | .downloaded bytes => "downloaded (" ++ toString (bytes.getD 0) ++ " bytes)"
    | .failed reason => "FAILED: " ++ reason.message
  "  " ++ r.partition.name ++ " " ++ r.split.name ++ " " ++ status

def mergeLine (output : Partition) (s : Split) : MergeOutcome → String
  | .noData => "Merged " ++ output.name ++ "/" ++ s.name ++ ": no data found"
  | .written _ rows sources =>
    let parts := sources.map fun p => p.partition.name ++ "=" ++ toString p.rows
    "Merged " ++ output.name ++ "/" ++ s.name ++ ": " ++ toString rows ++ " rows (" ++
      String.intercalate ", " parts ++ ")"

def printMerge (r : MergeReport) : Action Unit :=
  r.splits.forM fun (s, outcome) => Action.printLine (mergeLine r.output s outcome)

def preprocessLine (r : PreprocessRecord) : String :=
  let status := match r.outcome with
    | .processed _ output => "-> " ++ output.text
    | .skipped _ => "skipped (no input)"
  "  " ++ r.partition.name ++ " " ++ r.split.name ++ " " ++ status

def processedCount (records : List PreprocessRecord) : Nat :=
  records.countP fun r => r.outcome.isProcessed

namespace Context

def run (c : Context) (routine : Option RoutineKind) (report : Option Path) : Action Unit := do
  let p ← c.pipeline routine
  let r ← Action.ofStage (p.run c.surroundings.remote)
  let name := p.preprocessor.routine.name
  let processed := processedCount r.preprocess
  Action.printLine ("Fetched: " ++ fetchCounts r.fetch)
  printMerge r.merge
  Action.printLine ("Preprocessed: " ++ toString processed ++ " files, " ++
    toString (r.preprocess.length - processed) ++ " skipped (" ++ name ++ " routine)")
  Action.printLine ("Processed data: " ++ p.processed.root.text)
  if let some path := report then
    let content := Content.ofText (r.toJson name).pretty
    Action.ofStage (Stage.onTree (Disk.writeAtomically path (.ok content)))
      (Complaint.behind ("Failed to write report to " ++ path.text))
    Action.printLine ("Report written to " ++ path.text)

def fetch (c : Context) : Action Unit := do
  let p ← c.pipeline none
  let records ← (p.fetch c.surroundings.remote : StateM World _)
  records.forM fun r => Action.printLine (fetchLine r)
  Action.printLine (fetchCounts records)

def merge (c : Context) : Action Unit := do
  let p ← c.pipeline none
  printMerge (← Action.ofStage p.merge)

def process (c : Context) (routine : Option RoutineKind) : Action Unit := do
  let p ← c.pipeline routine
  let records ← Action.ofStage p.preprocess
  records.forM fun r => Action.printLine (preprocessLine r)
  let processed := processedCount records
  Action.printLine (toString processed ++ " processed, " ++
    toString (records.length - processed) ++ " skipped")

def preprocess (c : Context) (input output : Path) (split : Split) (preview : Option Nat) :
    Action Unit := do
  let limit ← match preview with
    | some n => pure n
    | none => (·.preprocess.preview) <$> c.settings
  let s ← Action.ofStage (Stage.onTree (Disk.convert input output split limit))
  Action.printLine ("Processed " ++ toString s.rows ++ " rows -> " ++ s.output.text)
  if 0 < s.preview.checked then
    Action.printLine ("Preview: " ++ toString s.preview.checked ++ " checked, " ++
      toString s.preview.issues ++ " answer issues, " ++ toString s.preview.structureFailures ++
      " structure failures")

def score (c : Context) (truth : String) (response : Option String) (file : Option Path)
    (json : Bool) : Action Unit := do
  let text ← match response, file with
    | some text, _ => pure text
    | none, some path =>
      Action.ofStage (Stage.onTree (Disk.readText path))
        (Complaint.behind ("Failed to read " ++ path.text))
    | none, none => pure c.surroundings.input
  let r := Reward.of text.toList truth.toList
  if json then Action.printLine r.toJson.pretty
  else
    Action.printLine ("Format: " ++ r.format.text)
    Action.printLine ("Answer: " ++ r.answer.text)
    Action.printLine ("Total:  " ++ r.total.text)

def train (c : Context) (partition : Option String) (dryRun : Bool) (extra : List String) :
    Action Unit := do
  let s ← c.settings
  let given ← match partition with
    | none => pure none
    | some name => some <$> Action.ofExcept (Partition.ofName name)
  let w ← get
  let env := c.surroundings.environment
  let t ← Action.ofExcept (Trainer.configure w.tree env s c.workspace given)
  if dryRun then Action.printLine (t.commandLine extra)
  else Action.ofStage (t.run c.surroundings.programs env extra)

def row (partition split raw processed : String) : String :=
  "  " ++ partition ++ " " ++ split ++ " " ++ padded 14 raw ++ " " ++ padded 14 processed

def inspect (c : Context) (json : Bool) : Action Unit := do
  let p ← c.pipeline none
  let r := p.inspect (← get).tree
  if json then Action.printLine r.toJson.pretty
  else
    Action.printLine ("Raw:       " ++ r.rawRoot.text)
    Action.printLine ("Processed: " ++ r.processedRoot.text)
    Action.printLine ""
    Action.printLine (row (padded 14 "PARTITION") (padded 6 "SPLIT") "RAW" "PROCESSED")
    r.entries.forM fun e =>
      Action.printLine
        (row e.partition.name e.split.name e.raw.state.summary e.processed.state.summary)

def initConfig (c : Context) : Action Unit := do
  let file := Settings.workspaceFile c.workspace
  if (← get).tree.has file then
    Action.printLine ("Configuration file already exists at: " ++ file.text)
  else
    let make : Disk Unit := do
      if let some dir := file.parent? then Disk.makeDirectories dir
      Disk.writeFile file (.ofText (Toml.document Settings.default.members))
    Action.ofStage (Stage.onTree make) Complaint.bare
    Action.printLine ("Created default configuration at: " ++ file.text)

def showConfig (c : Context) : Action Unit := do
  match (← c.settings).document? with
  | some text => Action.printLine text
  | none => throw ⟨"out-of-range value for u64 type", none⟩

def perform (c : Context) : Command → Action Unit
  | .run routine report => c.run routine report
  | .fetch => c.fetch
  | .merge => c.merge
  | .process routine => c.process routine
  | .preprocess input output split preview => c.preprocess input output split preview
  | .score truth response file json => c.score truth response file json
  | .train partition dryRun extra => c.train partition dryRun extra
  | .inspect json => c.inspect json
  | .showConfig => c.showConfig
  | .initConfig => c.initConfig

end Context

def pathOf (l : Location) : Path := ⟨"/" ++ String.intercalate "/" l⟩

def workspaceOf (t : Tree) (o : Options) : Path :=
  match t.find (o.workspace.getD ⟨"."⟩) with
  | .ok (l, _) => pathOf l
  | .error _ => pathOf t.workdir

def environmentOf (t : Tree) (env : Environment) : Environment :=
  match (Settings.fileContent? t ⟨".env"⟩).bind Content.text? with
  | some text => Dotenv.load env text
  | none => env

structure Ending where
  code : Nat
  complaint : Option Complaint

def versionLine : String := "logicrl 0.3.0"

def execute (s : Surroundings) (arguments : List String) : StateM World Ending := do
  let w ← get
  let env := environmentOf w.tree s.environment
  match parse? arguments with
  | none => return ⟨2, none⟩
  | some .help => return ⟨0, none⟩
  | some .version =>
    let _ ← (Action.printLine versionLine).run
    return ⟨0, none⟩
  | some (.command options command) =>
    let context : Context := ⟨{ s with environment := env }, options, workspaceOf w.tree options⟩
    match ← (context.perform command).run with
    | .ok () => return ⟨0, none⟩
    | .error complaint => return ⟨1, some complaint⟩

end PuzzlePrep.Cli

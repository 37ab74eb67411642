import PuzzlePrep.Number.Word
import PuzzlePrep.Settings.Basic

namespace PuzzlePrep.Cli

structure Options where
  workspace : Option Path
  config : Option Path
  rawDir : Option Path
  processedDir : Option Path
  script : Option Path

inductive Command
  | run (routine : Option RoutineKind) (report : Option Path)
  | fetch
  | merge
  | process (routine : Option RoutineKind)
  | preprocess (input output : Path) (split : Split) (preview : Option Nat)
  | score (truth : String) (response : Option String) (file : Option Path) (json : Bool)
  | train (partition : Option String) (dryRun : Bool) (extra : List String)
  | inspect (json : Bool)
  | showConfig
  | initConfig

inductive Request
  | command (options : Options) (command : Command)
  | help
  | version

inductive Arity
  | once
  | counted
  | value
  deriving DecidableEq

structure OptionSpec where
  long : String
  short : Option Char
  arity : Arity

def general : List OptionSpec :=
  [⟨"workspace", some 'w', .value⟩, ⟨"config", some 'c', .value⟩, ⟨"raw-dir", none, .value⟩,
    ⟨"processed-dir", none, .value⟩, ⟨"script", none, .value⟩, ⟨"verbose", some 'v', .counted⟩,
    ⟨"quiet", some 'q', .once⟩]

abbrev Given := List (String × String)

def looksLikeOption (w : List Char) : Bool := w.head? == some '-' && w != ['-']

def note (given : Given) (spec : OptionSpec) (value : String) : Option Given :=
  if spec.arity != .counted && (given.lookup spec.long).isSome then none
  else some (given ++ [(spec.long, value)])

inductive Meaning
  | options (given : Given)
  | needsValue (given : Given) (spec : OptionSpec)
  | help
  | version
  | separator
  | word
  | unknown
  | wrong

namespace Meaning

def ofNoted : Option Given → Meaning
  | some given => .options given
  | none => .wrong

def ofShort (specs : List OptionSpec) (top : Bool) (given : Given) : List Char → Meaning
  | [] => .options given
  | c :: rest =>
    match specs.find? (·.short == some c) with
    | some spec =>
      if spec.arity = .value then
        match rest with
        | [] => .needsValue given spec
        | '=' :: value => ofNoted (note given spec (String.ofList value))
        | value => ofNoted (note given spec (String.ofList value))
      else match note given spec "" with
        | some given => ofShort specs top given rest
        | none => .wrong
    | none => if c == 'h' then .help else if c == 'V' && top then .version else .unknown

def ofLong (specs : List OptionSpec) (top : Bool) (given : Given) (cs : List Char) : Meaning :=
  let (name, value) := cs.span (· != '=')
  match specs.find? (·.long == String.ofList name) with
  | some spec =>
    match spec.arity, value with
    | .value, [] => .needsValue given spec
    | .value, _ :: value => ofNoted (note given spec (String.ofList value))
    | _, [] => ofNoted (note given spec "")
    | _, _ :: _ => .wrong
  | none =>
    if name == "help".toList then (if value.isEmpty then .help else .wrong)
    else if top && name == "version".toList then (if value.isEmpty then .version else .wrong)
    else .unknown

def isShort (specs : List OptionSpec) (top : Bool) (c : Char) : Bool :=
  specs.any (·.short == some c) || c == 'h' || (c == 'V' && top)

def ofWord (specs : List OptionSpec) (top anything : Bool) (given : Given) (w : List Char) :
    Meaning :=
  match w with
  | ['-', '-'] => .separator
  | '-' :: '-' :: cs => ofLong specs top given cs
  | '-' :: c :: cs =>
    if anything && !(c :: cs).all (isShort specs top) then .unknown
    else ofShort specs top given (c :: cs)
  | _ => .word

def isFree : Meaning → Bool
  | .word | .unknown => true
  | _ => false

end Meaning

inductive Rest
  | words (ws : List String)
  | help
  | version

/-- Reads options up to the first word that is none. `top` stands for the options before the
command, `anything` for a command that takes any words; there a word that looks like an option but
is none may be a value. The option, if any, waits for its value. Nothing comes of wrong usage. -/
def readOptions (specs : List OptionSpec) (top anything : Bool) :
    Given → Option OptionSpec → List String → Option (Given × Rest)
  | given, none, [] => some (given, .words [])
  | _, some _, [] => none
  | given, some spec, w :: rest =>
    let free := anything && (Meaning.ofWord specs top anything given w.toList).isFree
    if looksLikeOption w.toList && !free then none
    else match note given spec w with
      | some given => readOptions specs top anything given none rest
      | none => none
  | given, none, w :: rest =>
    match Meaning.ofWord specs top anything given w.toList with
    | .options given => readOptions specs top anything given none rest
    | .needsValue given spec => readOptions specs top anything given (some spec) rest
    | .help => some (given, .help)
    | .version => some (given, .version)
    | .separator => if anything || rest.isEmpty then some (given, .words rest) else none
    | .word => some (given, .words (w :: rest))
    | .unknown => if anything then some (given, .words (w :: rest)) else none
    | .wrong => none

def path? (given : Given) (name : String) : Option (Option Path) :=
  match given.lookup name with
  | none => some none
  | some "" => none
  | some text => some (some ⟨text⟩)

def routine? (given : Given) : Option (Option RoutineKind) :=
  match given.lookup "routine" with
  | none => some none
  | some name => (RoutineKind.ofName? name).map some

def natural? (text : String) : Option Nat :=
  let ds := match text.toList with
    | '+' :: ds => ds
    | ds => ds
  let n := ds.foldl (fun n c => n * 10 + (c.toNat - 48)) 0
  if ds.isEmpty || !ds.all Char.isDigit || Number.wordCount ≤ n then none else some n

def options? (given : Given) : Option Options := do
  return {
    workspace := ← path? given "workspace"
    config := ← path? given "config"
    rawDir := ← path? given "raw-dir"
    processedDir := ← path? given "processed-dir"
    script := ← path? given "script" }

structure CommandSpec where
  name : String
  own : List OptionSpec
  takesWords : Bool
  build : Given → List String → Option Command

def runSpec : CommandSpec where
  name := "run"
  own := [⟨"routine", none, .value⟩, ⟨"report", none, .value⟩]
  takesWords := false
  build given _ := return .run (← routine? given) (← path? given "report")

def processSpec : CommandSpec where
  name := "process"
  own := [⟨"routine", none, .value⟩]
  takesWords := false
  build given _ := return .process (← routine? given)

def preprocessSpec : CommandSpec where
  name := "preprocess"
  own := [⟨"input", some 'i', .value⟩, ⟨"output", some 'o', .value⟩, ⟨"split", none, .value⟩,
    ⟨"preview", none, .value⟩]
  takesWords := false
  build given _ := do
    let input ← (← path? given "input")
    let output ← (← path? given "output")
    let split ← Split.ofName? ((given.lookup "split").getD "train")
    let preview ← match given.lookup "preview" with
      | none => some none
      | some text => (natural? text).map some
    return .preprocess input output split preview

def scoreSpec : CommandSpec where
  name := "score"
  own := [⟨"ground-truth", none, .value⟩, ⟨"response", none, .value⟩,
    ⟨"response-file", none, .value⟩, ⟨"json", none, .once⟩]
  takesWords := false
  build given _ := do
    let truth ← given.lookup "ground-truth"
    let response := given.lookup "response"
    let file ← path? given "response-file"
    if response.isSome && file.isSome then none
    else return .score truth response file (given.lookup "json").isSome

def trainSpec : CommandSpec where
  name := "train"
  own := [⟨"partition", none, .value⟩, ⟨"dry-run", none, .once⟩]
  takesWords := true
  build given extra :=
    some (.train (given.lookup "partition") (given.lookup "dry-run").isSome extra)

def inspectSpec : CommandSpec where
  name := "inspect"
  own := [⟨"json", none, .once⟩]
  takesWords := false
  build given _ := some (.inspect (given.lookup "json").isSome)

def bareSpec (name : String) (command : Command) : CommandSpec where
  name
  own := []
  takesWords := false
  build _ _ := some command

def commands : List CommandSpec :=
  [runSpec, bareSpec "fetch" .fetch, bareSpec "merge" .merge, processSpec, preprocessSpec,
    scoreSpec, trainSpec, inspectSpec]

def configCommands : List CommandSpec :=
  [bareSpec "show" .showConfig, bareSpec "init" .initConfig]

def readCommand (spec : CommandSpec) (before : Given) (ws : List String) : Option Request := do
  match ← readOptions (general ++ spec.own) false spec.takesWords [] none ws with
  | (_, .help) => return .help
  | (_, .version) => none
  | (given, .words extra) =>
    if !spec.takesWords && !extra.isEmpty then none
    else
      let options ← options? (given ++ before)
      return .command options (← spec.build given extra)

def isTopic (specs : List CommandSpec) : List String → Bool
  | [] => true
  | [word] => word == "help" || specs.any (·.name == word)
  | _ => false

def isTopicOfAll : List String → Bool
  | "config" :: rest => isTopic configCommands rest
  | words => isTopic commands words

def readNamed (specs : List CommandSpec) (topic : List String → Bool) (before : Given) :
    List String → Option Request
  | [] => none
  | "help" :: rest => if topic rest then some .help else none
  | name :: rest => do readCommand (← specs.find? (·.name == name)) before rest

def parse? (arguments : List String) : Option Request := do
  match ← readOptions general true false [] none arguments with
  | (_, .help) => return .help
  | (_, .version) => return .version
  | (before, .words ("config" :: rest)) =>
    match ← readOptions general false false [] none rest with
    | (_, .help) => return .help
    | (_, .version) => none
    | (given, .words ws) => readNamed configCommands (isTopic configCommands) (given ++ before) ws
  | (before, .words ws) => readNamed commands isTopicOfAll before ws

end PuzzlePrep.Cli

import PuzzlePrep.Shell.Builtin
import PuzzlePrep.Shell.Executable
import PuzzlePrep.Shell.Parser

namespace PuzzlePrep.Shell

open Act

def longest : Nat := 100000

def deepest : Nat := 2000

def State.searched (s : State) : String := (s.bindings.lookup "PATH").getD usualPath

def conclude (status : Nat) : Act Nat := do
  modify fun s => { s with status }
  return status

def concludeChecked (status : Nat) : Act Nat := do
  let s ← get
  set { s with status }
  if status != 0 && s.isOn .failFast && !s.guarded then throw (.exited status)
  return status

/-- A turn of a loop: whether to go on, and its status. An order to leave outer loops too is passed
on to them. -/
def turnOfLoop (body : Act Nat) : Act (Bool × Nat) := fun s =>
  match body.run.run { s with loops := s.loops + 1 } with
  | (result, after) =>
    let after := { after with loops := s.loops }
    match result with
    | .ok status => (.ok (true, status), after)
    | .error (.onward levels) =>
      if levels ≤ 1 || s.loops = 0 then (.ok (true, 0), after)
      else (.error (.onward (levels - 1)), after)
    | .error (.outOf levels) =>
      if levels ≤ 1 || s.loops = 0 then (.ok (false, 0), after)
      else (.error (.outOf (levels - 1)), after)
    | .error e => (.error e, after)

def evaluate (text : List Char) : Act Int := do
  let s ← get
  let result := match Arithmetic.assignment? text with
    | some (name, operator, value) => do
      let i ← Arithmetic.eval s.parameter? value
      if operator.isEmpty then return (some name, i)
      let old := (s.parameter? name).getD "0"
      let both := old.toList ++ operator ++ (toString i).toList
      return (some name, ← Arithmetic.eval s.parameter? both)
    | none => do return (none, ← Arithmetic.eval s.parameter? text)
  match result with
  | .ok (name, i) =>
    name.forM fun name => modify (State.assign name (toString i))
    return i
  | .error remark =>
    abort ("arithmetic expression: " ++ remark ++ ": \"" ++ String.ofList text ++ "\"")

def Command.line? : Command → Option Nat
  | .simple line _ _ => if line = 0 then none else some line
  | _ => none

def inOrder (run : Command → Act Nat) (commands : List Command) : Act Nat :=
  commands.foldlM (fun _ c => run c) 0

def assignAll (text : Word → Act String) (assignments : List (String × Word)) :
    Act (List String) :=
  assignments.mapM fun (name, w) => do
    let value ← text w
    checkFree "" name
    modify (State.assign name value)
    return name ++ "=" ++ value

def showCommand (held : Option (List (Nat × Sink))) (words : List String) : Act Unit := do
  let s ← get
  if s.isOn .traced then
    let sign := (s.bindings.lookup "PS4").getD "+ "
    restoring (fun before after => { after with channels := before.channels }) do
      modify fun s => { s with channels := held.getD s.channels }
      complain (sign ++ String.intercalate " " words)

def remarking {α : Type} (remark : String) (act : Act α) : Act α :=
  restoring (fun before after => { after with remark := before.remark }) do
    modify fun s => { s with remark }
    act

def forgiven (act : Act Nat) : Act Nat := fun s =>
  match act.run.run s with
  | (.error (.exited 2), s) => (.ok 2, s)
  | (result, s) => (result, s)

def followAll (text : Word → Act String) : List Redirection → Act (Option String)
  | [] => return none
  | r :: rest => do
    let target ← text r.target
    match ← follow r target with
    | some complaint => return some complaint
    | none => followAll text rest

def forEach (name : String) (body : Act Nat) (status : Nat) : List String → Act Nat
  | [] => return status
  | field :: rest => do
    modify (State.assign name field)
    let (more, status) ← turnOfLoop body
    if more then forEach name body status rest else return status

def anyAdmits (pattern : Word → Act (List Glyph)) (text : List Char) : List Word → Act Bool
  | [] => return false
  | w :: rest => do
    if Pattern.accepts (Pattern.ofGlyphs (← pattern w)) text then return true
    else anyAdmits pattern text rest

def branchFor (pattern : Word → Act (List Glyph)) (text : List Char) :
    List (List Word × Command) → Act (Option Command)
  | [] => return none
  | (patterns, body) :: rest => do
    if ← anyAdmits pattern text patterns then return some body
    else branchFor pattern text rest

def Word.withHome : Word → Word
  | .text false ['~'] :: more => .parameter true "HOME" .plain [] :: more
  | .text false ('~' :: '/' :: cs) :: more =>
    .parameter true "HOME" .plain [] :: .text false ('/' :: cs) :: more
  | w => w

def fieldsOf (glyphs : Word → Act (List Glyph)) (ws : List Word) : Act (List String) := do
  let parts ← ws.mapM fun w => do
    let gs ← glyphs w.withHome
    let s ← get
    let fields := Glyph.fields s.separators [] gs
    if s.isOn .noPatterns then return fields.map fun field => String.ofList (Glyph.text field)
    else return fields.flatMap (textsOf s.tree)
  return parts.flatten

def wholeText (gs : List Glyph) : String :=
  String.ofList (gs.filterMap fun g => if g = .boundary then some ' ' else g.char?)

inductive Meaning
  | keyword
  | function
  | special
  | builtin
  | program (path : String)

namespace Meaning

def of (s : State) (name : String) : Option Meaning :=
  if Parse.reserved.contains name then some .keyword
  else if (s.functions.lookup name).isSome then some .function
  else if Parse.special.contains name then some .special
  else if (builtins.lookup name).isSome || ["type", "command"].contains name then some .builtin
  else
    match locate s.tree s.searched name with
    | .ok _ => some (.program (if name.toList.contains '/' then name else "/usr/bin/" ++ name))
    | .error _ => none

def text : Meaning → String
  | keyword => " is a shell keyword"
  | function => " is a shell function"
  | special => " is a special shell builtin"
  | builtin => " is a shell builtin"
  | program path => " is " ++ path

end Meaning

def branch (act : Act Nat) : Act Nat := do
  modify State.branched
  act

mutual

def expand (fuel : Nat) (w : Word) : Act (List Glyph) :=
  match fuel with
  | 0 => throw .tooSlow
  | fuel + 1 => do
    let parts ← w.mapM fun piece => match piece with
      | .text true cs => pure (.present :: cs.map Glyph.fixed)
      | .text false cs => pure (cs.map Glyph.plain)
      | .parameter quoted name modifier operand =>
        expandParameter fuel quoted name modifier operand
      | .output quoted script => do
        let (status, bytes) ← capture (branch (runToEnd fuel (runText fuel script)))
        modify fun s => { s with yielded := status }
        pure (glyphs quoted (dropLineEnds (Text.lossy bytes)))
      | .number quoted expression => do
        let i ← evaluate (Glyph.text (← expand fuel expression))
        pure (glyphs quoted (toString i))
    return parts.flatten

def expandParameter (fuel : Nat) (quoted : Bool) (name : String) (modifier : Modifier)
    (operand : Word) : Act (List Glyph) :=
  match fuel with
  | 0 => throw .tooSlow
  | fuel + 1 => do
    let s ← get
    let value := s.parameter? name
    let plain : List Glyph :=
      if name = "@" || (name = "*" && !quoted) then argumentGlyphs quoted s.arguments
      else if name = "*" then
        glyphs quoted (String.intercalate ((s.separators.head?.map Char.toString).getD "") s.arguments)
      else glyphs quoted (value.getD "")
    let missing (colon : Bool) : Bool := value.isNone || (colon && value == some "")
    if s.isOn .strict && value.isNone && (modifier = .plain || modifier = .length) &&
        name != "@" && name != "*" then
      abort (name ++ ": parameter not set")
    match modifier with
    | .unknown => abort "Bad substitution"
    | .plain => return plain
    | .length => return glyphs quoted (toString (value.getD "").utf8ByteSize)
    | .fallback colon => if missing colon then expand fuel operand else return plain
    | .alternative colon => if missing colon then return [] else expand fuel operand
    | .assigned colon =>
      if missing colon then
        let text := String.ofList (Glyph.text (← expand fuel operand))
        modify (State.assign name text)
        return glyphs quoted text
      else return plain
    | .required colon =>
      if missing colon then
        let text := String.ofList (Glyph.text (← expand fuel operand))
        let usual := if colon then "parameter not set or null" else "parameter not set"
        abort (name ++ ": " ++ (if text = "" then usual else text))
      else return plain
    | .withoutFront longest =>
      let p := Pattern.ofGlyphs (← expand fuel operand)
      return glyphs quoted (String.ofList (Pattern.dropFront longest p (value.getD "").toList))
    | .withoutBack longest =>
      let p := Pattern.ofGlyphs (← expand fuel operand)
      return glyphs quoted (String.ofList (Pattern.dropBack longest p (value.getD "").toList))

def run (fuel : Nat) (c : Command) : Act Nat :=
  match fuel with
  | 0 => throw .tooSlow
  | fuel + 1 => do
    if (← get).isOn .checkOnly then return (← get).status
    match c with
    | .simple line assignments ws => do
      if line != 0 then modify fun s => { s with line }
      let held := (← get).held
      modify fun s => { s with held := none, yielded := 0 }
      match ← fieldsOf (expand fuel) ws with
      | [] =>
        let given ← assignAll (fun w => wholeText <$> expand fuel w) assignments
        if !given.isEmpty then showCommand held given
        let status := (← get).yielded
        if held.isNone then attend fuel status
        concludeChecked status
      | name :: arguments =>
        let isLasting :=
          Parse.special.contains name && ((← get).functions.lookup name).isNone
        let passing := if isLasting then [] else assignments.map (·.1)
        let status ← restoring (State.resetVariables passing) do
          let given ← assignAll (fun w => wholeText <$> expand fuel w) assignments
          showCommand held (given ++ name :: arguments)
          modify fun s => { s with exported := passing ++ s.exported }
          invoke fuel name arguments
        if held.isNone then attend fuel status
        concludeChecked status
    | .redirected c rs => do
      let replaced := rs.any fun r => r.channel == 0
      let lasting := match c with
        | .simple _ [] [w] => w.literal? == some "exec"
        | _ => false
      let simple := match c with
        | .simple .. => true
        | _ => false
      let restore := if lasting then fun _ after => after else restoreChannels replaced
      let channels := (← get).channels
      let status ← restoring restore do
        c.line?.forM fun line => modify fun s => { s with line }
        match ← followAll (fun w => wholeText <$> expand fuel w) rs with
        | some complaint =>
          report complaint
          concludeChecked 2
        | none =>
          modify fun s => { s with held := if simple then some channels else none }
          run fuel c
      attend fuel status
      return status
    | .pipe first second => do
      let (_, bytes) ← capture (branch (runToEnd fuel (guarded (run fuel first))))
      let status ← child do
        modify fun s => { s with input := bytes, guarded := true }
        branch (runToEnd fuel (run fuel second))
      attend fuel status
      concludeChecked status
    | .both first second => do
      let status ← guarded (run fuel first)
      if status = 0 then run fuel second else conclude status
    | .either first second => do
      let status ← guarded (run fuel first)
      if status = 0 then conclude 0 else run fuel second
    | .negated c => do
      let status ← guarded (run fuel c)
      conclude (if status = 0 then 1 else 0)
    | .sequence first second => do
      let _ ← run fuel first
      run fuel second
    | .background c => do
      let before ← get
      let number := before.processes + 1
      set { before with processes := number }
      let status ← child do
        modify fun s => { s with input := .empty, guarded := false }
        branch (runToEnd fuel (run fuel c))
      modify fun s => { s with
        clock := before.clock, input := before.input, lastJob := some number
        jobs := ⟨number, s.clock, .code status⟩ :: s.jobs }
      conclude 0
    | .subshell c => do
      let status ← child (branch (runToEnd fuel (run fuel c)))
      attend fuel status
      concludeChecked status
    | .choice condition yes no => do
      let status ← guarded (run fuel condition)
      if status = 0 then run fuel yes else run fuel no
    | .loop until_ condition body => do
      let status ← iterate (fun before => do
        let status ← guarded (run fuel condition)
        if (status == 0) == until_ then return (false, before)
        else turnOfLoop (run fuel body)) longest 0
      conclude status
    | .each name items body => do
      let fields ← fieldsOf (expand fuel) items
      if !fields.isEmpty then checkFree "" name
      conclude (← forEach name (run fuel body) 0 fields)
    | .select subject branches => do
      let text := wholeText (← expand fuel subject)
      match ← branchFor (expand fuel) text.toList branches with
      | some body => run fuel body
      | none => conclude 0
    | .define name body => do
      modify fun s => { s with functions := (name, body) :: s.functions }
      conclude 0

def invoke (fuel : Nat) (name : String) (arguments : List String) : Act Nat :=
  match fuel with
  | 0 => throw .tooSlow
  | fuel + 1 => do
    let s ← get
    match s.functions.lookup name, name, builtins.lookup name with
    | some body, _, _ =>
      let act : Act Nat := restoring
          (fun before after =>
            { State.resetLocals before after with arguments := before.arguments }) do
        modify fun s => { s with arguments, locals := some [] }
        run fuel body
      fun s =>
        match act.run.run s with
        | (.error (.returned status), s) => (.ok status, s)
        | (result, s) => (result, s)
    | none, "eval", _ =>
      remarking "eval: " (runText fuel (String.intercalate " " arguments).toList)
    | none, ".", _ =>
      match arguments with
      | [] => return 2
      | file :: _ =>
        match ← attempt (Tool.bytesOf file) with
        | .ok data => remarking (file ++ ": ") (runText fuel (Text.lossy data).toList)
        | .error f => abort (".: cannot open " ++ file ++ ": " ++ openReason false f)
    | none, "command", _ =>
      match arguments with
      | [] => return 0
      | "-v" :: rest =>
        match rest.head? with
        | none => return 0
        | some n =>
          match Meaning.of s n with
          | some (.program path) => printLine path
          | some _ => printLine n
          | none => return 127
          return 0
      | "-V" :: rest =>
        match rest.head? with
        | none => return 0
        | some n =>
          printLine (n ++ ((Meaning.of s n).map Meaning.text).getD ": not found")
          return if (Meaning.of s n).isSome then 0 else 127
      | "--" :: rest | "-p" :: rest => invoke fuel "command" rest
      | n :: rest =>
        if n.startsWith "-" && n.length != 1 then
          return ← refuse ("command: Illegal option -" ++ String.ofList (n.toList.drop 1 |>.take 1))
        match builtins.lookup n with
        | some act => if n = "exit" then act rest else forgiven (remarking "" (act rest))
        | none =>
          if n = "." then forgiven (invoke fuel n rest)
          else if ["eval", "exec", "type", "command"].contains n then invoke fuel n rest
          else runProgram fuel "" n rest
    | none, "exec", _ =>
      match arguments with
      | [] => return 0
      | n :: rest => do
        modify fun s => { s with traps := s.ignoring }
        let status ← runProgram fuel "exec: " n rest
        throw (.exited status)
    | none, "type", _ =>
      let found ← arguments.mapM fun n => do
        let meaning := Meaning.of s n
        printLine (n ++ (meaning.map Meaning.text).getD ": not found")
        return meaning.isSome
      return if found.all id then 0 else 127
    | none, _, some act => remarking "" (act arguments)
    | none, name, none => runProgram fuel "" name arguments

def runProgram (fuel : Nat) (remark name : String) (arguments : List String) : Act Nat :=
  match fuel with
  | 0 => throw .tooSlow
  | fuel + 1 => do
    let s ← get
    let refused (f : Fault) : Act Nat := do
      match f with
      | .missing | .notDirectory =>
        report (remark ++ name ++ ": not found")
        return 127
      | f =>
        report (remark ++ name ++ ": " ++ f.reason)
        return 126
    match locate s.tree s.searched name with
    | .error f => refused f
    | .ok e =>
      let result := start fuel e name arguments
      match ← (if remark = "" then surviving result else result) with
      | .ok status => return status
      | .error .notExecutableFormat => child (runShell fuel name (name :: arguments))
      | .error f => refused f

def start (fuel : Nat) (e : Executable) (name : String) (arguments : List String) :
    Act (Except Fault Nat) :=
  match fuel with
  | 0 => throw .tooSlow
  | fuel + 1 =>
    match e with
    | .tool tool => do
      match Tool.table.lookup tool with
      | some act => return .ok (← act arguments)
      | none => return .error .missing
    | .shell => return .ok (← child (runShell fuel name arguments))
    | .environmentTool => do
      let settings := arguments.takeWhile fun a => a.toList.contains '='
      match arguments.dropWhile fun a => a.toList.contains '=' with
      | [] => return .ok (← Tool.printenv [])
      | program :: rest =>
        let status ← child do
          let _ ← exportNames settings
          let s ← get
          match locate s.tree s.searched program with
          | .error f =>
            complain ("env: " ++ Tool.quoted program ++ ": " ++ f.reason)
            return if f = .missing then 127 else 126
          | .ok e =>
            match ← start fuel e program rest with
            | .ok status => return status
            | .error f =>
              complain ("env: " ++ Tool.quoted program ++ ": " ++ f.reason)
              return 126
        return .ok status
    | .file path content => do
      match interpreterLine? content with
      | none => return .error .notExecutableFormat
      | some (program, extra) =>
        match executableAt (← get).tree program with
        | .error f => return .error f
        | .ok e => start fuel e program (extra ++ path :: arguments)

def runText (fuel : Nat) (script : List Char) : Act Nat :=
  match fuel with
  | 0 => throw .tooSlow
  | fuel + 1 => do
    let (commands, mistake) := Command.ofScript script
    let status ← inOrder (run fuel) commands
    match mistake with
    | none => return status
    | some m =>
      modify fun s => { s with line := m.line }
      abort m.text

def runShell (fuel : Nat) (name : String) (arguments : List String) : Act Nat :=
  match fuel with
  | 0 => throw .tooSlow
  | fuel + 1 => do
    let inherited := (← get).environment
    modify fun s => { s.renewed with name, arguments := [], bindings := inherited }
    modify fun s => (((s.assign "PWD" (Tool.directoryText s.tree)).assign "IFS" " \t\n").assign
      "OPTIND" "1").assign "PS4" "+ "
    runOptions fuel false arguments

def runOptions (fuel : Nat) (inline : Bool) (arguments : List String) : Act Nat :=
  match fuel with
  | 0 => throw .tooSlow
  | fuel + 1 => do
    let operand (arguments : List String) : Act Nat := do
      let fromInput := !inline && (arguments.isEmpty || (← get).isOn .fromInput)
      if fromInput then modify (State.switch true .fromInput)
      match inline, (if fromInput then [] else arguments) with
      | true, [] => abort "-c requires an argument"
      | true, script :: rest =>
        modify fun s => { s with name := rest.headD s.name, arguments := rest.tail }
        runToEnd fuel (runText fuel script.toList)
      | false, [] => do
        let script := (Text.lossy (← takeInput)).toList
        modify fun s => { s with arguments }
        runToEnd fuel (runText fuel script)
      | false, file :: rest =>
        match (← get).tree.find ⟨file⟩ with
        | .error f => abort ("cannot open " ++ file ++ ": " ++ openReason false f)
        | .ok (_, .directory) => return 0
        | .ok (_, .file content _) =>
          let text := match content with
            | .bytes data => Text.lossy data
            | .table .. => ""
          modify fun s => { s with name := file, arguments := rest }
          runToEnd fuel (runText fuel text.toList)
    match arguments with
    | [] => operand []
    | "--" :: rest => operand rest
    | "-" :: rest => operand rest
    | a :: rest =>
      match a.toList with
      | '-' :: letters =>
        let own := letters.filter fun c => c != 'c' && c != 'l'
        let rest ← switchLetters "" true own rest
        runOptions fuel (inline || letters.contains 'c') rest
      | '+' :: letters =>
        let own := letters.filter fun c => c != 'c' && c != 'l'
        let rest ← switchLetters "" false own rest
        runOptions fuel (inline || letters.contains 'c') rest
      | _ => operand (a :: rest)

def runToEnd (fuel : Nat) (act : Act Nat) : Act Nat :=
  match fuel with
  | 0 => throw .tooSlow
  | fuel + 1 => fun s =>
    let (result, s) := act.run.run s
    let ended : Option Nat := match result with
      | .ok status => some status
      | .error (.exited status) | .error (.returned status) => some status
      | .error (.outOf _) | .error (.onward _) => some s.status
      | .error (.killed _) | .error .tooSlow => none
    match ended, s.traps.lookup 0 with
    | some status, some action =>
      (do
        modify fun s => { s with
          traps := s.traps.filter (·.1 != 0), status, before := some status }
        let _ ← runText fuel action.toList
        return status : Act Nat).run.run s
    | some status, none => (.ok status, s)
    | none, _ => (result, s)

def attend (fuel : Nat) (status : Nat) : Act Unit :=
  match fuel with
  | 0 => throw .tooSlow
  | fuel + 1 => do
    let s ← get
    match s.outer, s.pending with
    | none, n :: rest =>
      set { s with pending := rest }
      restoring (fun before after =>
          { after with guarded := before.guarded, before := before.before }) do
        modify fun s => { s with
          status, before := some (s.before.getD status), guarded := false }
        let _ ← runText fuel ((s.traps.lookup n).getD "").toList
      modify fun s => { s with status }
      attend fuel status
    | _, _ => return

end

end PuzzlePrep.Shell

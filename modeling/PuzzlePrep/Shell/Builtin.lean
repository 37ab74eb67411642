import PuzzlePrep.Shell.Expansion
import PuzzlePrep.Shell.SignalName

namespace PuzzlePrep.Shell

open Act

def abort {α : Type} (text : String) : Act α := do
  report text
  throw (.exited 2)

def number (command s : String) : Act Nat := do
  match s.toNat? with
  | some n => return n
  | none => abort (command ++ ": Illegal number: " ++ s)

def refuse (text : String) : Act Nat := do
  report text
  return 2

def killUsage : Act Nat :=
  refuse ("kill: Usage: kill [-s sigspec | -signum | -sigspec] [pid | job]... or\n" ++
    "kill -l [exitstatus]")

def listSignals : List String → Act Nat
  | [] => do
    printLine "0"
    ((List.range (Signal.last + 1)).drop 1).forM fun n => printLine (SignalName.text n)
    return 0
  | word :: _ =>
    match word.toNat? with
    | none => refuse ("kill: Illegal number: " ++ word)
    | some n => do
      let n := if 128 < n then n - 128 else n
      if 0 < n && n ≤ Signal.last then
        printLine (SignalName.text n)
        return 0
      else refuse ("kill: invalid signal number or exit status: " ++ word)

def endJob (signal : Nat) (target : String) : Act Bool := do
  let s ← get
  let runs (job : Job) : Bool := target = toString job.number && s.clock < job.finish
  if signal != 0 && !Signal.isHarmless signal then
    let ended (job : Job) : Job := { job with finish := s.clock, status := .signal signal }
    set { s with jobs := s.jobs.map fun job => if runs job then ended job else job }
  return s.jobs.any runs

def sendTo (signal : Nat) : Nat → List String → Act Nat
  | status, [] => return status
  | status, target :: rest => do
    let digits := if target.startsWith "-" then (target.drop 1).toString else target
    if target.startsWith "%" then refuse ("kill: No such job: " ++ target)
    else if digits.isEmpty || !digits.toList.all Char.isDigit then
      refuse ("kill: Illegal number: " ++ digits)
    else if target = toString processNumber then
      deliver signal
      sendTo signal status rest
    else if ← endJob signal target then sendTo signal status rest
    else
      report "kill: No such process\n"
      sendTo signal 1 rest

def kill (arguments : List String) : Act Nat :=
  let send (signal : Nat) (targets : List String) : Act Nat :=
    if targets.isEmpty then killUsage else sendTo signal 0 targets
  match arguments with
  | [] => killUsage
  | first :: rest =>
    match first.toList with
    | '-' :: cs =>
      match SignalName.parse? 1 (String.ofList cs), cs with
      | some n, _ => send n rest
      | none, [] => send 15 arguments
      | none, ['-'] => send 15 rest
      | none, 'l' :: _ => listSignals rest
      | none, 's' :: cs =>
        match (if cs.isEmpty then rest else String.ofList cs :: rest) with
        | [] => refuse "kill: No arg for -s option"
        | name :: targets =>
          match SignalName.parse? 1 name, targets with
          | none, _ => refuse ("kill: invalid signal number or name: " ++ name)
          | some n, "--" :: targets => send n targets
          | some n, targets => send n targets
      | none, c :: _ => refuse ("kill: Illegal option -" ++ c.toString)
    | _ => send 15 arguments

def setTraps (action : Option String) : List String → Act Nat
  | [] => return 0
  | word :: rest => do
    match SignalName.parse? 0 word with
    | none =>
      complain ("trap: " ++ word ++ ": bad trap")
      return 1
    | some n =>
      modify fun s =>
        let others := s.traps.filter (·.1 != n)
        { s with traps := (action.map fun a => (n, a)).toList ++ others }
      setTraps action rest

def trap (arguments : List String) : Act Nat := do
  let arguments ← match arguments with
    | "--" :: rest => pure rest
    | "-" :: rest => pure ("-" :: rest)
    | first :: rest =>
      match first.toList with
      | '-' :: c :: _ => abort ("trap: Illegal option -" ++ c.toString)
      | _ => pure (first :: rest)
    | [] => pure []
  match arguments with
  | [] => do
    let s ← get
    (List.range (Signal.last + 1)).forM fun n =>
      (s.traps.lookup n).forM fun action => printLine (SignalName.command n action)
    return 0
  | [word] => setTraps none [word]
  | action :: words =>
    if (SignalName.number? action).isSome then setTraps none arguments
    else setTraps (if action = "-" then none else some action) words

def cd (arguments : List String) : Act Nat := do
  let s ← get
  let target := match arguments.filter (· != "--") with
    | [] => (s.bindings.lookup "HOME").getD ""
    | "-" :: _ => (s.bindings.lookup "OLDPWD").getD ""
    | p :: _ => p
  if target = "" then return 0
  match s.tree.find ⟨target⟩ with
  | .ok (l, .directory) =>
    let old := Tool.directoryText s.tree
    set { s with tree := { s.tree with workdir := l } }
    modify fun s => (s.assign "OLDPWD" old).assign "PWD" (Tool.directoryText s.tree)
    if arguments = ["-"] then printLine (Tool.directoryText (← get).tree)
    return 0
  | _ =>
    report ("cd: can't cd to " ++ target)
    return 2

def readLine (arguments : List String) : Act Nat := do
  let (fs, names) := Tool.flags arguments
  let s ← get
  let ended := s.input.toList.contains 10
  let (line, rest) := cutLine s.input
  set { s with input := rest }
  let line := (Text.lossy line).toList
  let line := if fs.contains 'r' then line else line.filter (· != '\\')
  let blank : Char → Bool := s.separators.contains
  let rec place : List String → List Char → Act Unit
    | [], _ => return
    | [name], cs =>
      let cs := ((cs.dropWhile blank).reverse.dropWhile blank).reverse
      modify (State.assign name (String.ofList cs))
    | name :: more, cs => do
      let cs := cs.dropWhile blank
      modify (State.assign name (String.ofList (cs.takeWhile (!blank ·))))
      place more (cs.dropWhile (!blank ·))
  match names.find? fun name => s.fixed.contains name || !isName name.toList with
  | some name =>
    let reason := if isName name.toList then ": is read only" else ": bad variable name"
    refuse ("read: " ++ name ++ reason)
  | none =>
    place names line
    return if ended then 0 else 1

def echo (arguments : List String) : Act Nat := do
  let (words, lineEnd) := match arguments with
    | "-n" :: rest => (rest, "")
    | words => (words, "\n")
  let text := String.intercalate " " words
  let (bytes, stop) := Escape.expand (text.length + 1) text.toList
  emit 1 bytes
  if !stop then print lineEnd
  return 0

def printf : List String → Act Nat
  | [] => refuse "printf: usage: printf format [arg ...]"
  | form :: arguments => do
    let printed := Format.apply form arguments
    emit 1 printed.bytes
    printed.complaints.forM fun text => report ("printf: " ++ text)
    match printed.mistake with
    | some text => refuse ("printf: " ++ text)
    | none => return if printed.complaints.isEmpty then 0 else 1

def checkFree (command name : String) : Act Unit := do
  if !isName name.toList then abort (command ++ name ++ ": bad variable name")
  if (← get).fixed.contains name then abort (command ++ name ++ ": is read only")

def splitAssignment (word : String) : String × Option String :=
  match word.toList.span (· != '=') with
  | (name, _ :: value) => (String.ofList name, some (String.ofList value))
  | (name, []) => (String.ofList name, none)

def declare (command : String) (also : String → State → State) (arguments : List String) :
    Act Nat := do
  for a in arguments do
    let (name, value) := splitAssignment a
    if !isName name.toList then abort (command ++ ": " ++ name ++ ": bad variable name")
    match value with
    | some value =>
      checkFree (command ++ ": ") name
      modify (State.assign name value)
    | none => pure ()
    modify (also name)
  return 0

def localNames (arguments : List String) : Act Nat := do
  for a in arguments do
    let (name, value) := splitAssignment a
    let s ← get
    let some kept := s.locals | abort "local: not in a function"
    if a = "-" then set { s with locals := some (.switches s.switches :: kept) }
    else if !isName name.toList then abort ("local: " ++ name ++ ": bad variable name")
    else
      let old := Local.variable name (s.bindings.lookup name) (s.exported.contains name)
      set { s with locals := some (old :: kept) }
      value.forM fun value => do
        checkFree "local: " name
        modify (State.assign name value)
  if (← get).locals.isNone then abort "local: not in a function"
  return 0

def exportNames : List String → Act Nat :=
  declare "export" fun name s => { s with exported := name :: s.exported }

def fixNames (arguments : List String) : Act Nat := do
  if arguments.isEmpty then
    let s ← get
    s.fixed.reverse.forM fun name =>
      printLine ("readonly " ++ name ++ (match s.bindings.lookup name with
        | some value =>
          "=" ++ String.ofList (SignalName.quote (value.length + 1) value.toList)
        | none => ""))
    return 0
  else declare "readonly" (fun name s => { s with fixed := name :: s.fixed }) arguments

def unset : List String → Act Nat
  | "-f" :: names => do
    names.forM fun name =>
      modify fun s => { s with functions := s.functions.filter (·.1 != name) }
    return 0
  | arguments => do
    (arguments.filter (· != "-v")).forM fun name => do
      checkFree "unset: " name
      modify (State.discard name)
    return 0

def umask : List String → Act Nat
  | [] => do
    let digits := Nat.toDigits 8 (← get).mask
    printLine (String.ofList (List.replicate (4 - digits.length) '0' ++ digits))
    return 0
  | word :: _ => do
    if !word.isEmpty && word.toList.all Escape.isOctal then
      let mask := word.toList.foldl (fun n c => 8 * n + (c.toNat - 48)) 0
      modify fun s => { s with mask }
      return 0
    else refuse ("umask: Illegal mode: " ++ word)

def nextOption (letters : List Char) (words : List String) (index place : Nat) :
    Option (Char × List Char × Nat × Nat) :=
  let fromWord (index : Nat) : Option (Char × List Char × Nat × Nat) :=
    match (words[index]?).map String.toList with
    | some ('-' :: c :: cs) => if c == '-' && cs.isEmpty then none else some (c, cs, index + 1, 2)
    | _ => none
  match if place = 0 then none else (words[index - 1]?).map fun w => w.toList.drop place with
  | some (c :: cs) => some (c, cs, index, place + 1)
  | _ => if letters.isEmpty then none else fromWord index

def getopts : List String → Act Nat
  | form :: name :: given => do
    if !isName name.toList then return ← refuse ("getopts: " ++ name ++ ": bad variable name")
    let s ← get
    let words := if given.isEmpty then s.arguments else given
    let index := (((s.bindings.lookup "OPTIND").bind String.toNat?).getD 1) - 1
    let silent := form.startsWith ":"
    let finish (letter : Char) (index place status : Nat) : Act Nat := do
      modify fun s => { ((s.assign "OPTIND" (toString (index + 1))).assign name letter.toString) with
        optionPlace := place }
      return status
    match nextOption form.toList words index s.optionPlace with
    | none =>
      let index := if words[index]? == some "--" && s.optionPlace = 0 then index + 1 else index
      finish '?' index 0 1
    | some (c, rest, index, place) =>
      let place := if rest.isEmpty then 0 else place
      let known := (form.toList.dropWhile (· == ':')).dropWhile (· != c)
      if known.isEmpty || c == ':' then
        if silent then modify (State.assign "OPTARG" c.toString)
        else
          complain ("Illegal option -" ++ c.toString)
          modify (State.discard "OPTARG")
        finish '?' index place 0
      else if known[1]? != some ':' then
        modify (State.assign "OPTARG" "")
        finish c index place 0
      else if !rest.isEmpty then
        modify (State.assign "OPTARG" (String.ofList rest))
        finish c index 0 0
      else
        match words[index]? with
        | some argument =>
          modify (State.assign "OPTARG" argument)
          finish c (index + 1) 0 0
        | none =>
          if silent then
            modify (State.assign "OPTARG" c.toString)
            finish ':' index 0 0
          else
            complain ("No arg for -" ++ c.toString ++ " option")
            modify (State.discard "OPTARG")
            finish '?' index 0 0
  | _ => refuse "getopts: Usage: getopts optstring var [arg]"

def showSwitches (readably : Bool) : Act Unit := do
  let s ← get
  if readably then printLine "Current option settings"
  Switch.all.forM fun k =>
    let on := s.isOn k
    printLine <|
      if readably then
        String.ofList (k.name.toList.rightpad 16 ' ') ++ (if on then "on" else "off")
      else "set " ++ (if on then "-o " else "+o ") ++ k.name

def switchLetters (command : String) (on : Bool) : List Char → List String → Act (List String)
  | [], words => return words
  | 'o' :: letters, words => do
    match words with
    | [] =>
      showSwitches on
      switchLetters command on letters []
    | name :: words =>
      match Switch.named? name with
      | none => abort (command ++ "Illegal option -o " ++ name)
      | some k =>
        modify (State.switch on k)
        switchLetters command on letters words
  | c :: letters, words => do
    match Switch.lettered? c with
    | none => abort (command ++ "Illegal option -" ++ c.toString)
    | some k =>
      modify (State.switch on k)
      switchLetters command on letters words

def readSwitches : Nat → List String → Act (Option (List String))
  | 0, words => return some words
  | _, [] => return none
  | fuel + 1, word :: words => do
    match word.toList with
    | ['-'] =>
      modify fun s => (s.switch false .traced).switch false .verbose
      return if words.isEmpty then none else some words
    | ['-', '-'] => return some words
    | '-' :: letters => readSwitches fuel (← switchLetters "set: " true letters words)
    | '+' :: letters => readSwitches fuel (← switchLetters "set: " false letters words)
    | _ => return some (word :: words)

def setOptions (words : List String) : Act Nat := do
  let given ← readSwitches (words.length + 1) words
  given.forM fun arguments => modify fun s => { s with arguments }
  if (← get).isOn .jobControl then
    report "set: can't access tty; job control turned off"
    modify (State.switch false .jobControl)
  return 0

def waitFor (job : Job) : Act Nat := do
  let s ← get
  pause (job.finish - s.clock)
  match job.status with
  | .code status => return status
  | .signal n =>
    if n != 2 && n != 13 then complain (Signal.description n)
    return 128 + n

def waitForAll (status : Nat) : List String → Act Nat
  | [] => return status
  | word :: rest => do
    let s ← get
    match word.toList with
    | '%' :: _ =>
      let recent := ["%", "%%", "%+"].contains word
      match if recent then s.jobs.head? else none with
      | some job => waitForAll (← waitFor job) rest
      | none =>
        refuse (if recent then "wait: No current job" else "wait: No such job: " ++ word)
    | cs =>
      if cs.isEmpty || !cs.all Char.isDigit then refuse ("wait: Illegal number: " ++ word)
      else
        match s.jobs.find? fun job => toString job.number = word with
        | some job => waitForAll (← waitFor job) rest
        | none => waitForAll status rest

def wait : List String → Act Nat
  | [] => do
    let s ← get
    pause (s.jobs.foldl (fun n job => max n job.finish) 0 - s.clock)
    return 0
  | word :: rest =>
    match word.toList with
    | '-' :: c :: _ => refuse ("wait: Illegal option -" ++ c.toString)
    | _ => waitForAll 127 (word :: rest)

def givenStatus (command : String) (arguments : List String) : Act Nat := do
  match arguments with
  | a :: _ => number command a
  | [] => return (← get).status

def givenLevels (command : String) (arguments : List String) : Act Nat := do
  match arguments with
  | a :: _ => number command a
  | [] => return 1

def shift (arguments : List String) : Act Nat := do
  let n ← givenLevels "shift" arguments
  if (← get).arguments.length < n then abort "shift: can't shift that many"
  modify fun s => { s with arguments := s.arguments.drop n }
  return 0

def builtins : List (String × (List String → Act Nat)) :=
  [(":", fun _ => return 0), ("true", fun _ => return 0), ("false", fun _ => return 1),
    ("echo", echo), ("printf", printf), ("pwd", Tool.pwd), ("cd", cd), ("kill", kill),
    ("test", Tool.test), ("[", Tool.bracket), ("read", readLine), ("shift", shift),
    ("set", setOptions), ("export", exportNames), ("readonly", fixNames),
    ("local", localNames), ("umask", umask), ("unset", unset),
    ("getopts", getopts), ("hash", fun _ => return 0), ("jobs", fun _ => return 0),
    ("bg", fun _ => refuse "bg: No current job"), ("fg", fun _ => refuse "fg: No current job"),
    ("times", fun _ => do
      print "0m0.00s 0m0.00s\n0m0.00s 0m0.00s\n"
      return 0),
    ("exit", fun arguments => do
      let given ← givenStatus "exit" arguments
      let before := (← get).before
      throw (.exited (if arguments.isEmpty then before.getD given else given % 256))),
    ("return", fun arguments => do throw (.returned (← givenStatus "return" arguments))),
    ("break", fun arguments => do
      let levels ← givenLevels "break" arguments
      if (← get).loops = 0 then return 0 else throw (.outOf levels)),
    ("continue", fun arguments => do
      let levels ← givenLevels "continue" arguments
      if (← get).loops = 0 then return 0 else throw (.onward levels)),
    ("wait", wait),
    ("trap", trap)]

def openReason (making : Bool) : Fault → String
  | .missing | .notDirectory => if making then "Directory nonexistent" else "No such file"
  | f => f.reason

def turn (channel : Nat) (sink : Option Sink) (s : State) : State :=
  let others := s.channels.filter (·.1 != channel)
  { s with channels := (sink.map fun k => (channel, k)).toList ++ others }

def openFile (append : Bool) (path : String) : Disk Location := do
  if append && (← get).hasFile ⟨path⟩ then
    let (l, _) ← Disk.inspect (·.find ⟨path⟩)
    return l
  else Disk.createFile ⟨path⟩

def follow (r : Redirection) (target : String) : Act (Option String) := do
  match r.direction with
  | .write | .replace | .append =>
    if target = "/dev/null" then
      modify (turn r.channel (some .nowhere))
      return none
    if target = "/dev/stderr" || target = "/dev/stdout" then
      let k := if target = "/dev/stderr" then 2 else 1
      modify fun s => turn r.channel (s.channels.lookup k) s
      return none
    let s ← get
    if r.direction = .write && s.isOn .keepFiles && s.tree.hasFile ⟨target⟩ then
      return some ("cannot create " ++ target ++ ": File exists")
    match ← attempt (openFile (r.direction == .append) target) with
    | .ok l =>
      modify (turn r.channel (some (.file l)))
      return none
    | .error f => return some ("cannot create " ++ target ++ ": " ++ openReason true f)
  | .read =>
    if target = "/dev/null" then
      modify fun s => { s with input := .empty }
      return none
    match ← attempt (Tool.bytesOf target) with
    | .ok data =>
      modify fun s => { s with input := data }
      return none
    | .error f => return some ("cannot open " ++ target ++ ": " ++ openReason false f)
  | .document =>
    modify fun s => { s with input := target.toUTF8 }
    return none
  | .copy =>
    if target = "-" then
      modify (turn r.channel none)
      return none
    match target.toNat? with
    | some k =>
      modify fun s => turn r.channel (s.channels.lookup k) s
      return none
    | none => return some "Bad fd number"

def restoreChannels (replaced : Bool) (before after : State) : State :=
  { after with
    channels := before.channels
    input := if replaced then before.input else after.input }

end PuzzlePrep.Shell

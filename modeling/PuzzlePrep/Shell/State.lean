import PuzzlePrep.Program.Invocation
import PuzzlePrep.Shell.Script
import PuzzlePrep.Shell.Switch
import PuzzlePrep.Text.Lossy

namespace PuzzlePrep.Shell

inductive Sink
  | output
  | complaints
  | captured
  | nowhere
  | file (l : Location)
  deriving DecidableEq, Inhabited

inductive Leave
  | exited (status : Nat)
  | killed (signal : Nat)
  | tooSlow
  | outOf (levels : Nat)
  | onward (levels : Nat)
  | returned (status : Nat)

structure Job where
  number : Nat
  finish : Nat
  status : ExitStatus

inductive Local
  | variable (name : String) (value : Option String) (exported : Bool)
  | switches (on : List Switch)

/-- The state of a shell. `traps` holds what is to be done on a signal, and under zero at the end; an
empty action ignores the signal. `outer` holds the traps of the main shell in a process made from
it, `ignored` the signals that were ignored from the start, `pending` those that wait for their
action, and `before` the status before the action that runs. `held` holds the channels of a command
before its redirections, until which actions are put off, `remark` names the command whose text is
run, `fixed` the variables that keep their values, and `optionPlace` is the place of the next option
in its word. `yielded` is the status of the last substitution in a command, `locals` what the function
that runs gives back, and `processes` the number that was last given to a process. -/
structure State where
  tree : Tree
  name : String
  arguments : List String
  bindings : List (String × String)
  exported : List String
  functions : List (String × Command) := []
  channels : List (Nat × Sink) := [(1, .output), (2, .complaints)]
  input : ByteArray := .empty
  output : ByteArray := .empty
  complaints : ByteArray := .empty
  captured : ByteArray := .empty
  clock : Nat := 1
  busyUntil : Nat := 0
  limit : Option Nat
  status : Nat := 0
  line : Nat := 0
  switches : List Switch := []
  yielded : Nat := 0
  guarded : Bool := false
  loops : Nat := 0
  fixed : List String := []
  traps : List (Nat × String) := []
  outer : Option (List (Nat × String)) := none
  ignored : List Nat := []
  pending : List Nat := []
  before : Option Nat := none
  held : Option (List (Nat × Sink)) := none
  remark : String := ""
  mask : Nat := 18
  optionPlace : Nat := 0
  locals : Option (List Local) := none
  processes : Nat := 2
  jobs : List Job := []
  lastJob : Option Nat := none

abbrev Act := ExceptT Leave (StateM State)

namespace State

def environment (s : State) : Environment := s.bindings.filter fun (k, _) => s.exported.contains k

def isOn (s : State) (k : Switch) : Bool := s.switches.contains k

def switch (on : Bool) (k : Switch) (s : State) : State :=
  let other := match k with
    | .vi => .emacs
    | .emacs => .vi
    | k => k
  let others := s.switches.filter fun j => j != k && !(on && j == other)
  { s with switches := if on then k :: others else others }

def assign (name value : String) (s : State) : State :=
  { s with
    bindings := (name, value) :: s.bindings.filter (·.1 != name)
    exported := if s.isOn .exportAll then name :: s.exported else s.exported }

def discard (name : String) (s : State) : State :=
  { s with bindings := s.bindings.filter (·.1 != name) }

def resetVariables (names : List String) (before after : State) : State :=
  let old := before.bindings.filter fun (k, _) => names.contains k
  { after with
    bindings := old ++ after.bindings.filter fun (k, _) => !names.contains k
    exported := if names.isEmpty then after.exported else before.exported }

def resetLocals (before after : State) : State :=
  let back (s : State) : Local → State
    | .switches on => { s with switches := on }
    | .variable name value exported =>
      let others := s.bindings.filter (·.1 != name)
      let names := s.exported.filter (· != name)
      { s with
        bindings := (value.map fun v => (name, v)).toList ++ others
        exported := if exported then name :: names else names }
  { (after.locals.getD []).foldl back after with locals := before.locals }

def lasting (s : State) : Nat := s.jobs.foldl (fun n job => max n job.finish) s.busyUntil

def afterChild (parent child : State) : State :=
  { parent with
    tree := { child.tree with workdir := parent.tree.workdir }
    input := child.input
    output := child.output
    complaints := child.complaints
    captured := child.captured
    clock := child.clock
    busyUntil := (child.jobs.filter fun job =>
      parent.jobs.all (·.number != job.number)).foldl (fun n job => max n job.finish) child.busyUntil
    processes := child.processes
    pending := child.pending }

def ignoring (s : State) : List (Nat × String) := s.traps.filter fun (_, action) => action = ""

def branched (s : State) : State :=
  { s with outer := some (s.outer.getD s.traps), traps := s.ignoring, jobs := [] }

def renewed (s : State) : State :=
  { s with
    functions := [], status := 0, line := 0, switches := [], guarded := false, loops := 0
    fixed := [], traps := [], outer := none, locals := none, jobs := [], lastJob := none
    ignored := (s.ignoring.map (·.1)).filter (· != 0) ++ s.ignored
    pending := [], before := none, held := none, remark := "", optionPlace := 0 }

def await (n : Nat) (s : State) : State :=
  { s with pending := (n :: s.pending.filter (· != n)).mergeSort (· ≤ ·) }

end State

namespace Act

def appendTo (t : Tree) (l : Location) (data : ByteArray) : Tree :=
  match t.get? l with
  | some (.file (.bytes old) executable) => t.put l (.file (.bytes (old ++ data)) executable)
  | some (.file (.table ..) executable) => t.put l (.file (.bytes data) executable)
  | _ => t

def emit (channel : Nat) (data : ByteArray) : Act Unit :=
  modify fun s =>
    match s.channels.lookup channel with
    | some .output => { s with output := s.output ++ data }
    | some .complaints => { s with complaints := s.complaints ++ data }
    | some .captured => { s with captured := s.captured ++ data }
    | some (.file l) => { s with tree := appendTo s.tree l data }
    | some .nowhere | none => s

def print (text : String) : Act Unit := emit 1 text.toUTF8

def printLine (text : String) : Act Unit := print (text ++ "\n")

def complain (text : String) : Act Unit := emit 2 (text ++ "\n").toUTF8

def report (text : String) : Act Unit := do
  let s ← get
  complain (s.name ++ ": " ++ toString s.line ++ ": " ++ s.remark ++ text)

def attempt {α : Type} (d : Disk α) : Act (Except Fault α) := do
  let (result, tree) := d.run.run (← get).tree
  modify fun s => { s with tree }
  match result with
  | .ok a => return .ok a
  | .error (.io f) => return .error f
  | .error f => return .error (.other f.message)

def pause (milliseconds : Nat) : Act Unit := do
  modify fun s => { s with clock := s.clock + milliseconds }
  let s ← get
  if s.limit.any (· ≤ s.clock) then throw .tooSlow

def takeInput : Act ByteArray := do
  let data := (← get).input
  modify fun s => { s with input := .empty }
  return data

def cutLine (data : ByteArray) : ByteArray × ByteArray :=
  match data.toList.findIdx? (· == 10) with
  | some i => (data.extract 0 i, data.extract (i + 1) data.size)
  | none => (data, .empty)

def restoring {α : Type} (restore : State → State → State) (act : Act α) : Act α := fun before =>
  match act.run.run before with
  | (result, after) => (result, restore before after)

def child (act : Act Nat) : Act Nat := fun parent =>
  match act.run.run parent with
  | (result, child) =>
    let after := parent.afterChild child
    match result with
    | .ok status => (.ok status, after)
    | .error (.exited status) => (.ok status, after)
    | .error (.returned status) => (.ok status, after)
    | .error (.outOf _) | .error (.onward _) => (.ok 0, after)
    | .error (.killed signal) => (.error (.killed signal), after)
    | .error .tooSlow => (.error .tooSlow, after)

/-- Starts another process. What kills it does not kill this one, but is reported, unless it was an
interrupt or a broken pipe. -/
def surviving (act : Act (Except Fault Nat)) : Act (Except Fault Nat) := fun before =>
  match act.run.run before with
  | (.error (.killed signal), s) =>
    let said : Act Unit :=
      if signal = 2 || signal = 13 then pure () else complain (Signal.description signal)
    let (_, s) := said.run.run { s with pending := before.pending }
    (.ok (.ok (128 + signal)), s)
  | (result, s) => (result, { s with pending := before.pending })

def deliver (n : Nat) : Act Unit := do
  let s ← get
  let action := if Signal.isCatchable n then (s.outer.getD s.traps).lookup n else none
  if n = 0 || (s.ignored.contains n && Signal.isCatchable n) then return
  match action with
  | some "" => return
  | some _ => modify (State.await n)
  | none =>
    if Signal.isHarmless n then return
    if Signal.isHalting n then throw .tooSlow else throw (.killed n)

def capture (act : Act Nat) : Act (Nat × ByteArray) := do
  let outer := (← get).captured
  modify fun s => { s with captured := .empty }
  let status ← child do
    modify fun s => { s with channels := (1, .captured) :: s.channels }
    act
  let inner := (← get).captured
  modify fun s => { s with captured := outer }
  return (status, inner)

def iterate (body : Nat → Act (Bool × Nat)) : Nat → Nat → State → Except Leave Nat × State
  | 0, _, s => (.error .tooSlow, s)
  | fuel + 1, status, s =>
    match (body status).run.run s with
    | (.ok (true, status), s) => iterate body fuel status s
    | (.ok (false, status), s) => (.ok status, s)
    | (.error e, s) => (.error e, s)

def guarded {α : Type} (act : Act α) : Act α :=
  restoring (fun before after => { after with guarded := before.guarded }) do
    modify fun s => { s with guarded := true }
    act

end Act

end PuzzlePrep.Shell

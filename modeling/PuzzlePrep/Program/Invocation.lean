import PuzzlePrep.Files.Disk
import PuzzlePrep.Program.Signal

namespace PuzzlePrep

abbrev Environment := List (String × String)

/-- A program with its arguments, the directory it starts in and the time it may take, in
milliseconds. -/
structure Invocation where
  program : String
  arguments : List String
  directory : Path
  environment : Environment
  limit : Option Nat

inductive ExitStatus
  | code (n : Nat)
  | signal (n : Nat)
  deriving DecidableEq, Repr, Inhabited

namespace ExitStatus

def isSuccess (s : ExitStatus) : Bool := s == .code 0

def text : ExitStatus → String
  | .code n => "exit status: " ++ toString n
  | .signal n =>
    "signal: " ++ toString n ++ (match Signal.name? n with
      | some name => " (SIG" ++ name ++ ")"
      | none => "")

end ExitStatus

inductive Outcome
  | notStarted (fault : Fault)
  | finished (status : ExitStatus) (output complaints : ByteArray) (after : Tree)
  | tooSlow (after : Tree)

abbrev Programs := Tree → Invocation → Outcome

end PuzzlePrep

import PuzzlePrep.Program.Signal

namespace PuzzlePrep.Shell.SignalName

def text (n : Nat) : String :=
  if n = 0 then "EXIT"
  else if n = 16 then "16"
  else
    match Signal.name? n with
    | some name => name
    | none =>
      let first := Signal.firstRealTime
      if n < first then toString n
      else if n = first then "RTMIN"
      else if n ≤ first + 15 then "RTMIN+" ++ toString (n - first)
      else if n < Signal.last then "RTMAX-" ++ toString (Signal.last - n)
      else "RTMAX"

def number? (s : String) : Option Nat :=
  if !s.isEmpty && s.toList.all Char.isDigit then s.toNat?.filter (· ≤ Signal.last) else none

def parse? (least : Nat) (s : String) : Option Nat :=
  (number? s).or
    (((List.range (Signal.last + 1)).drop least).find? fun n => text n == s.toUpper)

def quote : Nat → List Char → List Char
  | 0, _ => []
  | fuel + 1, cs =>
    let (plain, rest) := cs.span (· != '\'')
    let (marks, rest) := rest.span (· == '\'')
    let front := '\'' :: plain ++ ['\'']
    if marks.isEmpty then front
    else
      let back := if rest.isEmpty then [] else quote fuel rest
      front ++ '"' :: marks ++ '"' :: back

def command (n : Nat) (action : String) : String :=
  "trap -- " ++ String.ofList (quote (action.length + 1) action.toList) ++ " " ++ text n

end PuzzlePrep.Shell.SignalName

import PuzzlePrep.Cli.Arguments
import PuzzlePrep.Settings.Load

namespace PuzzlePrep.Cli

/-- The location that a path names from another, read without a look at the disk. -/
def reached (start : Location) (p : Path) : Location :=
  let step (l : Location) (part : List Char) : Location :=
    if Path.silent part then l
    else if part = ['.', '.'] then l.dropLast
    else l ++ [String.ofList part]
  p.parts.foldl step (if p.isAbsolute then [] else start)

def named (word : String) : List String :=
  match (word.toList.dropWhile (· != '=')).drop 1 with
  | [] => [word]
  | value => [word, String.ofList value]

def outermost (places : List Location) : List Location :=
  let places := places.eraseDups
  places.filter fun l => !places.any fun m => m != l && m.isPrefixOf l

def places (start : Location) (env : Environment) (arguments : List String) : List Location :=
  let words := (arguments.flatMap named).filter (· != "")
  outermost (start :: words.map (reached start ⟨·⟩) ++
    (Settings.userFile? env).toList.map (reached start))

def above (l : Location) : List Location :=
  (Settings.upward l).filter fun m => m != l && m != []

def readsInput (arguments : List String) : Bool :=
  match parse? arguments with
  | some (.command _ (.score _ none none _)) => true
  | _ => false

def usage : String := "Usage: logicrl [OPTIONS] <COMMAND>"

end PuzzlePrep.Cli

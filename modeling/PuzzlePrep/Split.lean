import PuzzlePrep.Failure
import PuzzlePrep.Text.Blank

namespace PuzzlePrep

inductive Split
  | train
  | test
  | validation
  deriving DecidableEq, Repr, Inhabited

namespace Split

def staged : List Split := [.train, .test]

def name : Split → String
  | .train => "train"
  | .test => "test"
  | .validation => "validation"

def fileName (s : Split) : String := s.name ++ ".parquet"

def ofName? (name : String) : Option Split :=
  [Split.train, .test, .validation].find? (·.name == name)

def parse (text : String) : Except Failure Split :=
  let word := (Text.trimString text).map Char.toLower
  match ofName? word with
  | some s => .ok s
  | none => .error (.unknownSplit word)

theorem ofName?_name (s : Split) : ofName? s.name = some s := by
  cases s <;> decide

end Split

end PuzzlePrep

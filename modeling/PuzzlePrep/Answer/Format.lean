import PuzzlePrep.Answer.Role
import PuzzlePrep.Text.Cut

namespace PuzzlePrep

def afterIsA? (cs : List Char) : Option (List Char) := do
  let rest ← Text.afterBlanks? cs
  let rest ← Text.afterFolded? ['i', 's'] rest
  let rest ← Text.afterBlanks? rest
  let rest ← Text.afterFolded? ['a'] rest
  Text.afterBlanks? rest

def numbering (i : Nat) : List Char := '(' :: Nat.toDigits 10 i ++ [')']

def readAnswerLine? (i : Nat) (line : List Char) : Option (List Char × Role) := do
  let rest ← Text.after? (numbering i) line
  let rest ← Text.afterBlanks? rest
  let (name, rest) ← Text.spanLetters? rest
  let rest ← afterIsA? rest
  match Role.atStart? rest with
  | some (r, []) => some (name, r)
  | _ => none

def answerLinesFrom (i : Nat) : List (List Char) → Bool
  | [] => true
  | line :: rest => (readAnswerLine? i (Text.trim line)).isSome && answerLinesFrom (i + 1) rest

def isAnswer (expected : Nat) (answer : List Char) : Bool :=
  let lines := Text.lines (Text.trim answer)
  lines.length == expected && answerLinesFrom 1 lines

end PuzzlePrep

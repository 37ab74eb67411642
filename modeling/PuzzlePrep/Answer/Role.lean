import PuzzlePrep.Text.Blank
import PuzzlePrep.Text.Fold
import PuzzlePrep.Text.Word

namespace PuzzlePrep

inductive Role
  | knight
  | knave
  deriving DecidableEq, Repr, Inhabited

namespace Role

def word : Role → List Char
  | .knight => ['k', 'n', 'i', 'g', 'h', 't']
  | .knave => ['k', 'n', 'a', 'v', 'e']

def name : Role → String
  | .knight => "knight"
  | .knave => "knave"

def all : List Role := [.knight, .knave]

theorem mem_all (r : Role) : r ∈ all := by cases r <;> simp [all]

def atStart? (cs : List Char) : Option (Role × List Char) :=
  all.findSome? fun r => (Text.afterFolded? r.word cs).map (r, ·)

end Role

abbrev Identities := List (String × Role)

namespace Text

def wordAhead : List Char → Bool
  | c :: _ => isWord c
  | [] => false

/-- A word begins or ends here; `behind` tells whether a word character stands right before. -/
def boundary (behind : Bool) (cs : List Char) : Bool := behind != wordAhead cs

def afterBlanks? : List Char → Option (List Char)
  | c :: cs => if isBlank c then some (trimStart cs) else none
  | [] => none

def spanLetters? (cs : List Char) : Option (List Char × List Char) :=
  match cs.span isLetter with
  | ([], _) => none
  | (letters, rest) => some (letters, rest)

end Text

def Role.wordAtStart? (cs : List Char) : Option Role :=
  match Role.atStart? cs with
  | some (r, rest) => if Text.wordAhead rest then none else some r
  | none => none

end PuzzlePrep

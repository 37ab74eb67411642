import PuzzlePrep.Text.Cut

namespace PuzzlePrep

inductive Tag
  | think
  | endThink
  | answer
  | endAnswer
  deriving DecidableEq, Repr

namespace Tag

def text : Tag → List Char
  | .think => ['<', 't', 'h', 'i', 'n', 'k', '>']
  | .endThink => ['<', '/', 't', 'h', 'i', 'n', 'k', '>']
  | .answer => ['<', 'a', 'n', 's', 'w', 'e', 'r', '>']
  | .endAnswer => ['<', '/', 'a', 'n', 's', 'w', 'e', 'r', '>']

def all : List Tag := [.think, .endThink, .answer, .endAnswer]

theorem mem_all (t : Tag) : t ∈ all := by cases t <;> simp [all]

end Tag

def wellTagged (cs : List Char) : Bool := Tag.all.all fun t => Text.countOf t.text cs == 1

def tagPlaces (cs : List Char) : List Nat := Tag.all.filterMap fun t => Text.indexOf? t.text cs

def increasing : List Nat → Bool
  | a :: b :: rest => a < b && increasing (b :: rest)
  | _ => true

def inGoodOrder (cs : List Char) : Bool := wellTagged cs && increasing (tagPlaces cs)

end PuzzlePrep

namespace PuzzlePrep.Shell

/-- What is done with the value of a parameter. `colon` makes an empty value count as unset. What is
`unknown` is found out only when the parameter is used. -/
inductive Modifier
  | plain
  | length
  | fallback (colon : Bool)
  | assigned (colon : Bool)
  | alternative (colon : Bool)
  | required (colon : Bool)
  | withoutFront (longest : Bool)
  | withoutBack (longest : Bool)
  | unknown
  deriving DecidableEq, Repr, Inhabited

inductive Piece
  | text (quoted : Bool) (cs : List Char)
  | parameter (quoted : Bool) (name : String) (modifier : Modifier) (operand : List Piece)
  | output (quoted : Bool) (script : List Char)
  | number (quoted : Bool) (expression : List Piece)
  deriving Inhabited

abbrev Word := List Piece

namespace Word

def literal? : Word → Option String
  | [.text false cs] => some (String.ofList cs)
  | _ => none

def pushText (quoted : Bool) (cs : List Char) : Word → Word
  | .text q ds :: rest =>
    if q = quoted then .text q (cs ++ ds) :: rest else .text quoted cs :: .text q ds :: rest
  | w => .text quoted cs :: w

end Word

inductive Direction
  | write
  | replace
  | append
  | read
  | copy
  | document
  deriving DecidableEq, Repr, Inhabited

structure Redirection where
  channel : Nat
  direction : Direction
  target : Word
  deriving Inhabited

inductive Command
  | simple (line : Nat) (assignments : List (String × Word)) (words : List Word)
  | redirected (command : Command) (redirections : List Redirection)
  | pipe (first second : Command)
  | both (first second : Command)
  | either (first second : Command)
  | negated (command : Command)
  | sequence (first second : Command)
  | background (command : Command)
  | subshell (command : Command)
  | choice (condition yes no : Command)
  | loop (until_ : Bool) (condition body : Command)
  | each (name : String) (items : List Word) (body : Command)
  | select (subject : Word) (branches : List (List Word × Command))
  | define (name : String) (body : Command)
  deriving Inhabited

namespace Command

def pass : Command := .simple 0 [] []

def block : List Command → Command
  | [] => pass
  | [c] => c
  | c :: cs => .sequence c (block cs)

end Command

def isName (cs : List Char) : Bool :=
  match cs with
  | [] => false
  | c :: _ => !c.isDigit && cs.all fun d => d.isAlphanum || d == '_'

end PuzzlePrep.Shell

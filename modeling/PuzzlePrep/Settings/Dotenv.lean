import PuzzlePrep.Program.Invocation
import PuzzlePrep.Text.Alphanumeric
import PuzzlePrep.Text.Blank

namespace PuzzlePrep.Dotenv

inductive Mode
  | none
  | bare
  | braced
  deriving DecidableEq

structure State where
  single : Bool := false
  double : Bool := false
  escaped : Bool := false
  ended : Bool := false
  mode : Mode := .none
  name : List Char := []
  output : List Char := []

def lookup (env : Environment) (name : List Char) : List Char :=
  ((env.lookup (String.ofList name)).getD "").toList

namespace State

def push (s : State) (c : Char) : State := { s with output := c :: s.output }

def substitute (env : Environment) (s : State) : State :=
  { s with output := (lookup env s.name).reverse ++ s.output, name := [], mode := .none }

def inName (env : Environment) (s : State) (c : Char) : State :=
  match s.mode with
  | .braced =>
    if c == '\x7d' then s.substitute env else { s with name := s.name ++ [c] }
  | _ =>
    if c == '\x7b' && s.name.isEmpty then { s with mode := .braced }
    else
      let s := s.substitute env
      if c == '$' then { s with mode := .bare } else s.push c

def step (env : Environment) (s : State) (c : Char) : Option State :=
  if s.ended then (if c == ' ' || c == '\t' then some s else none)
  else if s.escaped then
    if c == 'n' then some { s.push '\n' with escaped := false }
    else if c == '\\' || c == '\'' || c == '"' || c == '$' || c == ' ' then
      some { s.push c with escaped := false }
    else none
  else if s.single then some (if c == '\'' then { s with single := false } else s.push c)
  else if s.mode ≠ .none then
    some (if Text.isAlphanumeric c then { s with name := s.name ++ [c] } else s.inName env c)
  else if c == '$' then some { s with mode := .bare }
  else if s.double then
    some (if c == '"' then { s with double := false }
      else if c == '\\' then { s with escaped := true }
      else s.push c)
  else if c == '\'' then some { s with single := true }
  else if c == '"' then some { s with double := true }
  else if c == '\\' then some { s with escaped := true }
  else if c == ' ' || c == '\t' then some { s with ended := true }
  else some (s.push c)

def finish (env : Environment) (s : State) : Option String :=
  if s.single || s.double || s.mode = .braced then none
  else some (String.ofList (s.substitute env).output.reverse)

end State

def readValue (env : Environment) : State → List Char → Option String
  | s, [] => s.finish env
  | s, c :: rest =>
    if s.ended && c == '#' then s.finish env
    else match s.step env c with
      | some s => readValue env s rest
      | none => none

def isNameStart (c : Char) : Bool := c.isAlpha || c == '_'

def isNameChar (c : Char) : Bool := c.isAlphanum || c == '_' || c == '.'

def readName (cs : List Char) : Option (List Char × List Char) :=
  match cs with
  | c :: _ => if isNameStart c then some (cs.span isNameChar) else none
  | [] => none

def afterEquals (cs : List Char) : Option (List Char) :=
  match Text.trimStart cs with
  | '=' :: rest => some (Text.trimStart rest)
  | _ => none

def readLine (env : Environment) (line : List Char) : Option (Option (String × String)) := do
  let cs := Text.trim line
  if cs.isEmpty || cs.head? == some '#' then return none
  let (name, rest) ← readName cs
  let (name, rest) ←
    if name == "export".toList && (afterEquals rest).isNone then readName (Text.trimStart rest)
    else some (name, rest)
  let rest ← afterEquals rest
  let value ← if rest.head? == some '#' then some "" else readValue env {} rest
  return some (String.ofList name, value)

/-- Where the end of a line stands: in the open, behind a blank, behind a backslash, or within
quotes. A backslash counts within single quotes as well, though it changes nothing there. -/
inductive Place
  | free
  | blank
  | escaped
  | single
  | singleEscaped
  | double
  | doubleEscaped
  deriving DecidableEq, Repr

def Place.opened (c : Char) : Place :=
  if c == '\\' then .escaped else if c == '"' then .double else if c == '\'' then .single else .free

def Place.next (p : Place) (c : Char) : Place :=
  match p with
  | .free => if Text.isBlank c && c != '\n' && c != '\r' then .blank else Place.opened c
  | .blank => Place.opened c
  | .escaped => .free
  | .single => if c == '\\' then .singleEscaped else if c == '\'' then .free else .single
  | .singleEscaped => .single
  | .double => if c == '\\' then .doubleEscaped else if c == '"' then .free else .double
  | .doubleEscaped => .double

def follow : Place → List Char → List Char × Option Place
  | p, [] => ([], some p)
  | p, c :: rest =>
    if p = .blank && c == '#' then ([], none)
    else
      let (kept, place) := follow (p.next c) rest
      (c :: kept, place)

def dropNewline (cs : List Char) : List Char :=
  match cs.reverse with
  | '\n' :: '\r' :: rest => rest.reverse
  | '\n' :: rest => rest.reverse
  | _ => cs

def pieces : List Char → List (List Char)
  | [] => []
  | '\n' :: rest => ['\n'] :: pieces rest
  | c :: rest =>
    match pieces rest with
    | [] => [[c]]
    | piece :: more => (c :: piece) :: more

/-- The lines of a file, those within quotes joined; `begun` is what a line has so far. A file that
ends within a line gives nothing for it. -/
def joined : List Char → Place → List (List Char) → List (Option (List Char))
  | _, p, [] => if p = .free then [] else [none]
  | begun, p, piece :: more =>
    if (Text.trimStart (begun ++ piece)).head? == some '#' then joined [] .free more
    else
      match follow p piece with
      | (kept, none) => some (begun ++ kept) :: joined [] .free more
      | (kept, some .free) => some (dropNewline (begun ++ kept)) :: joined [] .free more
      | (kept, some p) => joined (begun ++ kept) p more

def extend (env : Environment) : List (Option (List Char)) → Environment
  | [] => env
  | none :: _ => env
  | some line :: rest =>
    match readLine env line with
    | none => env
    | some none => extend env rest
    | some (some (name, value)) =>
      extend (if (env.lookup name).isSome then env else env ++ [(name, value)]) rest

def load (env : Environment) (text : String) : Environment :=
  let cs := match text.toList with
    | '\uFEFF' :: rest => rest
    | cs => cs
  extend env (joined [] .free (pieces cs))

end PuzzlePrep.Dotenv

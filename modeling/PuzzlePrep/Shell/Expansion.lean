import PuzzlePrep.Shell.Pattern
import PuzzlePrep.Shell.Tools

namespace PuzzlePrep.Shell

def processNumber : Nat := 2

def State.parameter? (s : State) (name : String) : Option String :=
  match name with
  | "#" => some (toString s.arguments.length)
  | "?" => some (toString s.status)
  | "$" => some (toString processNumber)
  | "!" => s.lastJob.map toString
  | "-" => some (Switch.letters s.switches)
  | "@" | "*" =>
    if s.arguments.isEmpty then none else some (String.intercalate " " s.arguments)
  | name =>
    match name.toNat? with
    | some 0 => some s.name
    | some (n + 1) => s.arguments[n]?
    | none => s.bindings.lookup name

def State.separators (s : State) : List Char :=
  ((s.bindings.lookup "IFS").getD " \t\n").toList

def glyphs (quoted : Bool) (value : String) : List Glyph :=
  value.toList.map fun c => if quoted then .fixed c else .loose c

def argumentGlyphs (quoted : Bool) (arguments : List String) : List Glyph :=
  if arguments.isEmpty then [.vanished]
  else
    let one (a : String) : List Glyph := (if quoted then [.present] else []) ++ glyphs quoted a
    (arguments.map one).intersperse [.boundary] |>.flatten

def dropLineEnds (s : String) : String :=
  String.ofList (s.toList.reverse.dropWhile (· == '\n')).reverse

def admitted (t : Tree) (l : Location) (pattern : List Glyph) : List String :=
  let items := Pattern.ofGlyphs pattern
  (Tool.names t l).filter fun n =>
    Pattern.accepts items n.toList &&
      (n.toList.head? != some '.' || (pattern.head?.bind Glyph.char?) == some '.')

def paths (t : Tree) : List (List Glyph) → String → List String
  | [], done => [done]
  | part :: rest, done =>
    let here : Path := ⟨if done = "" then "." else done⟩
    let next (name : String) : List String :=
      let done := done ++ name
      if rest.isEmpty then (if t.has ⟨done⟩ then [done] else []) else paths t rest (done ++ "/")
    if Pattern.isWild part then
      match t.find here with
      | .ok (l, .directory) => (admitted t l part).flatMap next
      | _ => []
    else next (String.ofList (Glyph.text part))

def partsOf : List Glyph → List (List Glyph)
  | [] => [[]]
  | g :: rest =>
    if g.char? == some '/' then [] :: partsOf rest
    else
      match partsOf rest with
      | [] => [[g]]
      | first :: others => (g :: first) :: others

def textsOf (t : Tree) (field : List Glyph) : List String :=
  let self := String.ofList (Glyph.text field)
  if Pattern.isWild field then
    match paths t (partsOf field) "" with
    | [] => [self]
    | found => found
  else [self]

end PuzzlePrep.Shell

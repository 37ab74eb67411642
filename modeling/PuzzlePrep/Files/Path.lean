import PuzzlePrep.Text.Cut

namespace PuzzlePrep

structure Path where
  text : String
  deriving DecidableEq, Repr, Inhabited

namespace Path

def isAbsolute (p : Path) : Bool := p.text.toList.head? == some '/'

/-- The parts between the slashes; those of an absolute path follow its first slash. -/
def parts (p : Path) : List (List Char) :=
  match p.text.toList with
  | '/' :: rest => Text.pieces (· == '/') rest
  | cs => Text.pieces (· == '/') cs

def silent (part : List Char) : Bool := part.isEmpty || part == ['.']

def dropSilent (parts : List (List Char)) : List (List Char) :=
  (parts.reverse.dropWhile silent).reverse

def namingParts (absolute : Bool) (parts : List (List Char)) : List (List Char) :=
  match absolute, parts with
  | false, ['.'] :: rest => ['.'] :: dropSilent rest
  | _, _ => dropSilent parts

def ofParts (absolute : Bool) (parts : List (List Char)) : Path :=
  let cs := Text.join ['/'] parts
  ⟨String.ofList (if absolute then '/' :: cs else cs)⟩

def parent? (p : Path) : Option Path :=
  let parts := namingParts p.isAbsolute p.parts
  if parts.isEmpty then none
  else some (ofParts p.isAbsolute (namingParts p.isAbsolute parts.dropLast))

def fileName? (p : Path) : Option String :=
  match (namingParts p.isAbsolute p.parts).getLast? with
  | none => none
  | some part =>
    if part == ['.'] || part == ['.', '.'] then none else some (String.ofList part)

def join (base rest : Path) : Path :=
  if rest.isAbsolute then rest
  else match base.text.toList.getLast? with
    | none => rest
    | some '/' => ⟨base.text ++ rest.text⟩
    | some _ => ⟨base.text ++ "/" ++ rest.text⟩

def withFileName (p : Path) (name : String) : Path :=
  match p.fileName?, p.parent? with
  | some _, some parent => parent.join ⟨name⟩
  | _, _ => p.join ⟨name⟩

instance : HDiv Path String Path := ⟨fun p name => p.join ⟨name⟩⟩

def resolve (workspace p : Path) : Path := workspace.join p

end Path

end PuzzlePrep

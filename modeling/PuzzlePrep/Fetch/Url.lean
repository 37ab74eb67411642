import PuzzlePrep.Text.Cut

namespace PuzzlePrep

inductive Url
  | web (text : String)
  | other (text : String)
  deriving DecidableEq, Repr

namespace Url

def hexDigit (n : Nat) : Char := Char.ofNat (if n < 10 then 48 + n else 55 + n)

def percent (b : UInt8) : List Char := ['%', hexDigit (b.toNat / 16), hexDigit (b.toNat % 16)]

def escape (reserved : List Char) (cs : List Char) : List Char :=
  cs.flatMap fun c =>
    if c.toNat < 32 || 126 < c.toNat || reserved.contains c then
      (String.singleton c).toUTF8.toList.flatMap percent
    else [c]

def reservedInPath : List Char := [' ', '"', '#', '<', '>', '?', '\x60', '\x7b', '\x7d']

def reservedInQuery : List Char := [' ', '"', '#', '<', '>', '\'']

def reservedInFragment : List Char := [' ', '"', '<', '>', '\x60']

def splitScheme (cs : List Char) : Option (List Char × List Char) :=
  match cs.span (· != ':') with
  | (c :: scheme, _ :: rest) =>
    if c.isAlpha && scheme.all fun d => d.isAlphanum || d == '+' || d == '-' || d == '.' then
      some ((c :: scheme).map Char.toLower, rest)
    else none
  | _ => none

def isDot (segment : List Char) : Bool :=
  segment == ['.'] || segment.map Char.toLower == ['%', '2', 'e']

def isDoubleDot (segment : List Char) : Bool :=
  let dot : List Char := ['%', '2', 'e']
  [['.', '.'], '.' :: dot, dot ++ ['.'], dot ++ dot].contains (segment.map Char.toLower)

/-- The segments without dots; `done` holds those before, the last one first. A path that ends in
dots ends in a slash. -/
def resolveDots : List (List Char) → List (List Char) → List (List Char)
  | done, [] => done.reverse
  | done, segment :: rest =>
    if isDoubleDot segment then
      resolveDots (if rest.isEmpty then [] :: done.drop 1 else done.drop 1) rest
    else if isDot segment then resolveDots (if rest.isEmpty then [] :: done else done) rest
    else resolveDots (segment :: done) rest

def normalPath (cs : List Char) : List Char :=
  let segments := Text.pieces (fun c => c == '/' || c == '\\') (cs.drop 1)
  '/' :: Text.join ['/'] ((resolveDots [] segments).map (escape reservedInPath))

def normalHost (scheme authority : List Char) : Option (List Char) :=
  let (user, host) := match (authority.reverse.span (· != '@')) with
    | (host, _ :: user) => (user.reverse ++ ['@'], host.reverse)
    | (host, []) => ([], host.reverse)
  let (name, number) := match host.reverse.span Char.isDigit with
    | (digits, ':' :: name) => (name.reverse, digits.reverse)
    | _ => (host, [])
  let usual := if scheme == ['h', 't', 't', 'p'] then ['8', '0'] else ['4', '4', '3']
  if name.isEmpty || name.any fun c => c == ' ' || c == ':' || reservedInPath.contains c then none
  else
    let shownNumber := if number.isEmpty || number == usual then [] else ':' :: number
    some (user ++ name.map Char.toLower ++ shownNumber)

def normalTail (cs : List Char) : List Char :=
  let (front, fragment) := cs.span (· != '#')
  let (path, query) := front.span (· != '?')
  let shownQuery := match query with
    | mark :: query => mark :: escape reservedInQuery query
    | [] => []
  let shownFragment := match fragment with
    | mark :: fragment => mark :: escape reservedInFragment fragment
    | [] => []
  normalPath (if path.isEmpty then ['/'] else path) ++ shownQuery ++ shownFragment

def proper (s : String) : List Char :=
  let outer (c : Char) : Bool := c.toNat ≤ 32
  let inner := ((s.toList.dropWhile outer).reverse.dropWhile outer).reverse
  inner.filter fun c => !(c == '\t' || c == '\n' || c == '\r')

def parse? (s : String) : Option Url := do
  let (scheme, rest) ← splitScheme (proper s)
  if scheme == ['h', 't', 't', 'p'] || scheme == ['h', 't', 't', 'p', 's'] then
    let rest := rest.dropWhile fun c => c == '/' || c == '\\'
    let (authority, tail) := rest.span fun c => !(c == '/' || c == '\\' || c == '?' || c == '#')
    let host ← normalHost scheme authority
    return .web (String.ofList (scheme ++ [':', '/', '/'] ++ host ++ normalTail tail))
  else return .other (String.ofList (scheme ++ [':'] ++ rest))

end Url

end PuzzlePrep

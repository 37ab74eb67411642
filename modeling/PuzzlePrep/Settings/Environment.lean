import PuzzlePrep.Number.Word
import PuzzlePrep.Program.Invocation
import PuzzlePrep.Settings.Value
import PuzzlePrep.Text.Blank
import PuzzlePrep.Text.Cut
import PuzzlePrep.Toml.Value

namespace PuzzlePrep

namespace Setting

def variableStart : String := "LOGICRL_"

namespace Variable

def isSpace (c : Char) : Bool :=
  c == ' ' || c == '\t' || c == '\n' || c == '\x0c' || c == '\r'

def skipSpaces (cs : List Char) : List Char := cs.dropWhile isSpace

def isSeparator (c : Char) : Bool :=
  c == ',' || c == '\x7b' || c == '\x7d' || c == '[' || c == ']'

def upToQuote : List Char → Option (List Char × List Char)
  | [] => none
  | '"' :: rest => some ([], rest)
  | '\\' :: c :: rest => (upToQuote rest).map fun (inner, rest) => ('\\' :: c :: inner, rest)
  | c :: rest => (upToQuote rest).map fun (inner, rest) => (c :: inner, rest)

def withinBytes : Nat → List Char → List Char
  | _, [] => []
  | room, c :: rest => if c.utf8Size ≤ room then c :: withinBytes (room - c.utf8Size) rest else []

def unescape? : Nat → List Char → Option (List Char)
  | _, [] => some []
  | 0, _ => none
  | fuel + 1, '\\' :: rest => do
    let (c, rest) ← Toml.escape? rest
    return c :: (← unescape? fuel rest)
  | fuel + 1, c :: rest =>
    if Toml.isControl c then none else (unescape? fuel rest).map (c :: ·)

/-- The string that a text between quotes stands for. Of what comes before the first escape only as
many bytes are kept as there are characters. -/
def unquoted? (inner : List Char) : Option String :=
  let (before, escaped) := inner.span (· != '\\')
  let kept := if escaped.isEmpty then before else withinBytes before.length before
  if before.any Toml.isControl then none
  else (unescape? escaped.length escaped).map fun rest => String.ofList (kept ++ rest)

def quoted? (cs : List Char) : Option (String × List Char) := do
  let (inner, rest) ← upToQuote cs
  return (← unquoted? inner, rest)

def splitSign : List Char → Bool × List Char
  | '-' :: rest => (true, rest)
  | '+' :: rest => (false, rest)
  | cs => (false, cs)

def decimal? (cs : List Char) : Option Number.Binary :=
  let (negative, cs) := splitSign cs
  let (mantissa, exponent) := cs.span fun c => c != 'e' && c != 'E'
  let (whole, fraction) := mantissa.span (· != '.')
  let fraction := fraction.drop 1
  let (minus, power) := splitSign (exponent.drop 1)
  if !(whole ++ fraction ++ power).all Char.isDigit || (whole ++ fraction).isEmpty ||
      (!exponent.isEmpty && power.isEmpty) then none
  else
    let e : Int := Json.digitsValue power
    let e := if minus then -e else e
    some (Number.double.ofDecimal negative (Json.digitsValue (whole ++ fraction))
      (e - fraction.length))

def whole? (cs : List Char) : Option Setting :=
  let (negative, ds) := splitSign cs
  let n := Json.digitsValue ds
  if ds.isEmpty || !ds.all Char.isDigit then none
  else if negative then (if n ≤ Number.signedBound then some (.signed (-(n : Int))) else none)
  else if n < Number.wordCount then some (.unsigned n)
  else none

def plain (cs : List Char) : Setting :=
  match if cs.contains '.' then decimal? cs else none with
  | some x => .real x
  | none => (whole? cs).getD (.text (String.ofList cs))

def key? : List Char → Option (String × List Char)
  | '"' :: rest => quoted? rest
  | cs =>
    match cs.span fun c => c.isAlphanum || c == '_' || c == '-' with
    | ([], _) => none
    | (key, rest) => some (String.ofList key, rest)

mutual

def readValue : Nat → List Char → Option (Setting × List Char)
  | 0, _ => none
  | fuel + 1, cs => do
    let cs := skipSpaces cs
    let (value, rest) ←
      match Text.after? ['t', 'r', 'u', 'e'] cs, Text.after? ['f', 'a', 'l', 's', 'e'] cs with
      | some rest, _ => some (Setting.flag true, rest)
      | _, some rest => some (.flag false, rest)
      | none, none =>
        match cs with
        | '\x7b' :: rest =>
          (readMembers fuel [] rest).map fun (members, rest) => (.table members, rest)
        | '[' :: rest => (readItems fuel [] rest).map fun (items, rest) => (.list items, rest)
        | '"' :: rest => (quoted? rest).map fun (s, rest) => (.text s, rest)
        | '\'' :: c :: '\'' :: rest => some (.letter c, rest)
        | '\'' :: _ => none
        | cs =>
          let (token, rest) := cs.span (!isSeparator ·)
          some (plain (Text.trim token), rest)
    return (value, skipSpaces rest)

def readItems : Nat → List Setting → List Char → Option (List Setting × List Char)
  | 0, _, _ => none
  | _, done, ']' :: rest => some (done.reverse, rest)
  | fuel + 1, done, cs => do
    let (value, rest) ← readValue fuel cs
    match rest with
    | ',' :: rest => readItems fuel (value :: done) rest
    | ']' :: rest => some ((value :: done).reverse, rest)
    | _ => none

def readMembers : Nat → Members → List Char → Option (Members × List Char)
  | 0, _, _ => none
  | _, done, '\x7d' :: rest => some (done, rest)
  | fuel + 1, done, cs => do
    let (key, rest) ← key? (skipSpaces cs)
    match skipSpaces rest with
    | '=' :: rest =>
      let (value, rest) ← readValue fuel rest
      let done := done.insert key value
      match rest with
      | ',' :: rest => readMembers fuel done rest
      | '\x7d' :: rest => some (done, rest)
      | _ => none
    | _ => none

end

def parse (text : String) : Setting :=
  let cs := text.toList
  match readValue (2 * cs.length + 2) cs with
  | some (value, []) => value
  | _ => .text text

def underscoresToPoints : List Char → List Char
  | '_' :: '_' :: rest => '.' :: underscoresToPoints rest
  | c :: rest => c :: underscoresToPoints rest
  | [] => []

def keys? (name : String) : Option (List String) := do
  let lower := (Text.trim name.toList).map Char.toLower
  let key ← Text.after? (variableStart.toList.map Char.toLower) lower
  let parts := Text.pieces (· == '.') (underscoresToPoints (Text.trim key))
  if parts.any List.isEmpty then none else some (parts.map String.ofList)

end Variable

def ofEnvironment (env : Environment) : Setting :=
  env.foldl (fun below (name, value) =>
    match Variable.keys? name with
    | some keys => below.atop (nest keys (Variable.parse value))
    | none => below) (.table [])

end Setting

end PuzzlePrep

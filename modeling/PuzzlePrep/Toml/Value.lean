import PuzzlePrep.Json.Parser
import PuzzlePrep.Number.Word
import PuzzlePrep.Settings.Value

namespace PuzzlePrep.Toml

def timeKey : String := "$__toml_private_datetime"

def isSpace (c : Char) : Bool := c == ' ' || c == '\t'

def skipSpaces (cs : List Char) : List Char := cs.dropWhile isSpace

def isControl (c : Char) : Bool := (c.toNat < 32 && c != '\t') || c.toNat == 127

def isBareKey (c : Char) : Bool := c.isAlphanum || c == '_' || c == '-'

def afterNewline? : List Char → Option (List Char)
  | '\n' :: rest => some rest
  | '\r' :: '\n' :: rest => some rest
  | _ => none

def skipComment : List Char → Option (List Char)
  | '#' :: rest =>
    let (comment, rest) := rest.span fun c => c != '\n' && c != '\r'
    if comment.any isControl then none else some rest
  | cs => some cs

def skipLines : Nat → List Char → Option (List Char)
  | 0, cs => some cs
  | fuel + 1, cs => do
    let rest ← skipComment (skipSpaces cs)
    match afterNewline? rest with
    | some rest => skipLines fuel rest
    | none => some rest

def skipAll (cs : List Char) : Option (List Char) := skipLines (cs.length + 1) cs

def hexDigits? : Nat → Nat → List Char → Option (Nat × List Char)
  | 0, value, cs => some (value, cs)
  | _ + 1, _, [] => none
  | n + 1, value, c :: cs => do hexDigits? n (value * 16 + (← Json.hexValue? c)) cs

def scalar? (n : Nat) : Option Char := if n.isValidChar then some (Char.ofNat n) else none

def escape? : List Char → Option (Char × List Char)
  | 'u' :: rest => do
    let (n, rest) ← hexDigits? 4 0 rest
    return (← scalar? n, rest)
  | 'U' :: rest => do
    let (n, rest) ← hexDigits? 8 0 rest
    return (← scalar? n, rest)
  | 'b' :: rest => some ('\x08', rest)
  | 't' :: rest => some ('\t', rest)
  | 'n' :: rest => some ('\n', rest)
  | 'f' :: rest => some ('\x0c', rest)
  | 'r' :: rest => some ('\r', rest)
  | '"' :: rest => some ('"', rest)
  | '\\' :: rest => some ('\\', rest)
  | _ => none

def quotedString : Nat → List Char → List Char → Option (String × List Char)
  | 0, _, _ => none
  | _, _, [] => none
  | _, done, '"' :: rest => some (String.ofList done.reverse, rest)
  | fuel + 1, done, '\\' :: rest => do
    let (c, rest) ← escape? rest
    quotedString fuel (c :: done) rest
  | fuel + 1, done, c :: rest => if isControl c then none else quotedString fuel (c :: done) rest

def literalString (cs : List Char) : Option (String × List Char) :=
  match cs.span (· != '\'') with
  | (inner, _ :: rest) => if inner.any isControl then none else some (String.ofList inner, rest)
  | _ => none

/-- The end of a string of several lines: three quotes, of which up to two more belong to the
string. -/
def closing? (quote : Char) (cs : List Char) : Option (Nat × List Char) :=
  let (quotes, rest) := cs.span (· == quote)
  let n := quotes.length
  if n < 3 then none
  else
    let inner := min (n - 3) 2
    some (inner, List.replicate (n - 3 - inner) quote ++ rest)

def isFolded (c : Char) : Bool := isSpace c || c == '\n' || c == '\r'

def longString (quote : Char) : Nat → List Char → List Char → Option (String × List Char)
  | 0, _, _ => none
  | _, _, [] => none
  | fuel + 1, done, c :: rest =>
    if c == quote then
      match closing? quote (c :: rest) with
      | some (extra, rest) =>
        some (String.ofList (done.reverse ++ List.replicate extra quote), rest)
      | none => longString quote fuel (c :: done) rest
    else if c == '\\' && quote == '"' then
      let blanks := rest.takeWhile isFolded
      if (afterNewline? (skipSpaces rest)).isSome then
        longString quote fuel done (rest.drop blanks.length)
      else
        match escape? rest with
        | some (d, rest) => longString quote fuel (d :: done) rest
        | none => none
    else
      match afterNewline? (c :: rest) with
      | some rest => longString quote fuel ('\n' :: done) rest
      | none => if isControl c then none else longString quote fuel (c :: done) rest

def string? : List Char → Option (String × List Char)
  | '"' :: '"' :: '"' :: rest =>
    longString '"' (rest.length + 1) [] ((afterNewline? rest).getD rest)
  | '\'' :: '\'' :: '\'' :: rest =>
    longString '\'' (rest.length + 1) [] ((afterNewline? rest).getD rest)
  | '"' :: rest => quotedString (rest.length + 1) [] rest
  | '\'' :: rest => literalString rest
  | _ => none

def simpleKey? : List Char → Option (String × List Char)
  | '"' :: rest => quotedString (rest.length + 1) [] rest
  | '\'' :: rest => literalString rest
  | cs =>
    match cs.span isBareKey with
    | ([], _) => none
    | (key, rest) => some (String.ofList key, rest)

def dottedKey? : Nat → List Char → Option (List String × List Char)
  | 0, _ => none
  | fuel + 1, cs => do
    let (key, rest) ← simpleKey? (skipSpaces cs)
    match skipSpaces rest with
    | '.' :: rest =>
      let (more, rest) ← dottedKey? fuel rest
      return (key :: more, rest)
    | rest => return ([key], rest)

def depthLimit : Nat := 80

def keyPath? (fuel : Nat) (cs : List Char) : Option (List String × List Char) := do
  let (keys, rest) ← dottedKey? fuel cs
  if keys.length < depthLimit then some (keys, rest) else none

def groupedDigits? (isDigit : Char → Bool) (cs : List Char) : Option (List Char) :=
  let groups := cs.splitOnP (· == '_')
  if groups.all fun g => !g.isEmpty && g.all isDigit then some groups.flatten else none

def wholeOf? (i : Int) : Option Setting :=
  if Number.isSigned i then some (.signed i) else none

def inBase (base : Nat) (cs : List Char) : Nat :=
  cs.foldl (fun n c => n * base + (Json.hexValue? c).getD 0) 0

def basedNumber? (base : Nat) (cs : List Char) : Option Setting := do
  let isDigit (c : Char) : Bool := (Json.hexValue? c).any (· < base)
  let ds ← groupedDigits? isDigit cs
  wholeOf? (inBase base ds)

def splitSign : List Char → Bool × List Char
  | '-' :: rest => (true, rest)
  | '+' :: rest => (false, rest)
  | cs => (false, cs)

def wholeDigits? (cs : List Char) : Option (List Char) := do
  let ds ← groupedDigits? Char.isDigit cs
  if ds.length > 1 && ds.head? == some '0' then none else some ds

def decimal? (cs : List Char) : Option Setting := do
  let (negative, cs) := splitSign cs
  if cs == ['i', 'n', 'f'] then return .real (.infinite negative)
  if cs == ['n', 'a', 'n'] then return .real .nan
  let (mantissa, exponent) := cs.span fun c => c != 'e' && c != 'E'
  let (whole, fraction) := mantissa.span (· != '.')
  let ds ← wholeDigits? whole
  if exponent.isEmpty && fraction.isEmpty then
    let n : Int := Json.digitsValue ds
    wholeOf? (if negative then -n else n)
  else
    let fs ← if fraction.isEmpty then some [] else groupedDigits? Char.isDigit (fraction.drop 1)
    let e : Int ← if exponent.isEmpty then some 0 else do
      let (minus, es) := splitSign (exponent.drop 1)
      let es ← groupedDigits? Char.isDigit es
      let n : Int := Json.digitsValue es
      some (if minus then -n else n)
    match Number.double.ofDecimal negative (Json.digitsValue (ds ++ fs)) (e - fs.length) with
    | .infinite false => none
    | x => some (.real x)

def number? : List Char → Option Setting
  | '0' :: 'x' :: rest => basedNumber? 16 rest
  | '0' :: 'o' :: rest => basedNumber? 8 rest
  | '0' :: 'b' :: rest => basedNumber? 2 rest
  | cs => decimal? cs

def fieldOf? (n low high : Nat) (cs : List Char) : Option Unit :=
  let value := Json.digitsValue cs
  if cs.length = n && cs.all Char.isDigit && low ≤ value && value ≤ high then some () else none

def daysIn (year month : Nat) : Nat :=
  if month = 2 then
    if year % 4 = 0 && (year % 100 ≠ 0 || year % 400 = 0) then 29 else 28
  else if [4, 6, 9, 11].contains month then 30 else 31

def isDate (cs : List Char) : Bool :=
  match cs.splitOnP (· == '-') with
  | [y, m, d] =>
    let days := daysIn (Json.digitsValue y) (Json.digitsValue m)
    (fieldOf? 4 0 9999 y).isSome && (fieldOf? 2 1 12 m).isSome && (fieldOf? 2 1 days d).isSome
  | _ => false

def isClock (cs : List Char) : Bool :=
  match cs.splitOnP (· == ':') with
  | [h, m, s] =>
    let (s, fraction) := s.span (· != '.')
    (fieldOf? 2 0 23 h).isSome && (fieldOf? 2 0 59 m).isSome && (fieldOf? 2 0 60 s).isSome &&
      (fraction.isEmpty || (1 < fraction.length && (fraction.drop 1).all Char.isDigit))
  | _ => false

def isOffset : List Char → Bool
  | ['Z'] | ['z'] => true
  | sign :: rest =>
    (sign == '+' || sign == '-') &&
      match rest.splitOnP (· == ':') with
      | [h, m] => (fieldOf? 2 0 23 h).isSome && (fieldOf? 2 0 59 m).isSome
      | _ => false
  | [] => false

def isZonedClock (cs : List Char) : Bool :=
  let (clock, offset) := cs.span fun c => c.isDigit || c == ':' || c == '.'
  isClock clock && (offset.isEmpty || isOffset offset)

def isTime (cs : List Char) : Bool :=
  isDate cs || isClock cs ||
    (isDate (cs.take 10) && isZonedClock (cs.drop 11) &&
      ((cs.drop 10).head?.any fun c => c == 'T' || c == 't' || c == ' '))

def isPlain (c : Char) : Bool :=
  c.isAlphanum || c == '_' || c == '+' || c == '-' || c == '.' || c == ':'

def plain? (cs : List Char) : Option (Setting × List Char) :=
  let (token, rest) := cs.span isPlain
  let (token, rest) := match rest with
    | ' ' :: d :: more =>
      if isDate token && d.isDigit then
        let (clock, rest) := (d :: more).span isPlain
        (token ++ ' ' :: clock, rest)
      else (token, rest)
    | _ => (token, rest)
  let value :=
    if token == ['t', 'r', 'u', 'e'] then some (Setting.flag true)
    else if token == ['f', 'a', 'l', 's', 'e'] then some (.flag false)
    else if isTime token then some (.table [(timeKey, .text (String.ofList token))])
    else number? token
  value.map (·, rest)

end PuzzlePrep.Toml

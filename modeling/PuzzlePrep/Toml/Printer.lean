import PuzzlePrep.Json.Printer
import PuzzlePrep.Settings.Value

namespace PuzzlePrep.Toml

def needsEscape (c : Char) : Bool :=
  (c.toNat < 32 && c != '\t' && c != '\n') || c.toNat == 127

def longestRun (q : Char) : Nat → Nat → List Char → Nat
  | best, _, [] => best
  | best, run, c :: rest =>
    if c == q then longestRun q (max best (run + 1)) (run + 1) rest else longestRun q best 0 rest

/-- What stands around a string: double quotes allow escapes, single ones do not, and three of them
allow newlines. -/
inductive Quotes
  | double
  | single
  | longDouble
  | longSingle
  deriving DecidableEq, Repr

namespace Quotes

def of (cs : List Char) : Quotes :=
  let free := !cs.any needsEscape
  let newline := cs.contains '\n'
  let backslash := cs.contains '\\'
  if free && !newline && !backslash && !cs.contains '"' then .double
  else if free && !newline && !cs.contains '\'' then .single
  else if free && !backslash && longestRun '"' 0 0 cs ≤ 2 then .longDouble
  else if free && longestRun '\'' 0 0 cs ≤ 2 then .longSingle
  else if newline then .longDouble else .double

def text : Quotes → List Char
  | .double => ['"']
  | .single => ['\'']
  | .longDouble => ['"', '"', '"']
  | .longSingle => ['\'', '\'', '\'']

def isLong : Quotes → Bool
  | .longDouble | .longSingle => true
  | .double | .single => false

def allowsEscapes : Quotes → Bool
  | .double | .longDouble => true
  | .single | .longSingle => false

end Quotes

def upperDigit (n : Nat) : Char := Char.ofNat (if n < 10 then 48 + n else 55 + n)

def escapeChar (long : Bool) (c : Char) : List Char :=
  if c == '\\' then ['\\', '\\']
  else if c == '\n' then (if long then ['\n'] else ['\\', 'n'])
  else if c == '\r' then ['\\', 'r']
  else if c == '\t' then ['\\', 't']
  else if c.toNat == 8 then ['\\', 'b']
  else if c.toNat == 12 then ['\\', 'f']
  else if c.toNat < 32 || c.toNat == 127 then
    ['\\', 'u', '0', '0', upperDigit (c.toNat / 16), upperDigit (c.toNat % 16)]
  else [c]

def escaped (long : Bool) : Nat → List Char → List Char
  | _, [] => []
  | run, c :: rest =>
    if c == '"' then
      if long && run < 2 then '"' :: escaped long (run + 1) rest
      else '\\' :: '"' :: escaped long 0 rest
    else escapeChar long c ++ escaped long 0 rest

def quote (s : String) : String :=
  let cs := s.toList
  let q := Quotes.of cs
  let lead := if q.isLong && cs.contains '\n' then ['\n'] else []
  let inner := if q.allowsEscapes then escaped q.isLong 0 cs else cs
  String.ofList (q.text ++ lead ++ inner ++ q.text)

def bracketed : List String → String
  | [] => "[]"
  | [item] => "[" ++ item ++ "]"
  | items => "[\n" ++ String.join (items.map fun item => "    " ++ item ++ ",\n") ++ "]"

mutual

def value : Setting → String
  | .text s => quote s
  | .letter c => quote (String.singleton c)
  | .flag b => if b then "true" else "false"
  | .signed i => toString i
  | .unsigned n => toString n
  | .real x => Number.double.text Number.dataNotation x
  | .list items => bracketed (values items)
  | .absent | .table _ => ""

def values : List Setting → List String
  | [] => []
  | j :: rest => value j :: values rest

end

def plainLines (members : List (String × Setting)) : String :=
  String.join (members.map fun (key, j) =>
    match j with
    | .absent | .table _ => ""
    | j => key ++ " = " ++ value j ++ "\n")

def sections (members : List (String × Setting)) : List String :=
  members.filterMap fun (key, j) =>
    match j with
    | .table inner => some ("[" ++ key ++ "]\n" ++ plainLines inner)
    | _ => none

def document (members : List (String × Setting)) : String :=
  String.intercalate "\n" (plainLines members :: sections members)

end PuzzlePrep.Toml

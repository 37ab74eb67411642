import PuzzlePrep.Json.Value
import PuzzlePrep.Number.Scaled
import PuzzlePrep.Number.Word

namespace PuzzlePrep.Json

def isSpace (c : Char) : Bool := c == ' ' || c == '\n' || c == '\r' || c == '\t'

def skipSpaces (cs : List Char) : List Char := cs.dropWhile isSpace

def hexValue? (c : Char) : Option Nat :=
  let n := c.toNat
  if 48 ≤ n && n ≤ 57 then some (n - 48)
  else if 65 ≤ n && n ≤ 70 then some (n - 55)
  else if 97 ≤ n && n ≤ 102 then some (n - 87)
  else none

def hex4? : List Char → Option (Nat × List Char)
  | a :: b :: c :: d :: rest => do
    let a ← hexValue? a
    let b ← hexValue? b
    let c ← hexValue? c
    let d ← hexValue? d
    return (((a * 16 + b) * 16 + c) * 16 + d, rest)
  | _ => none

def unicodeEscape? (cs : List Char) : Option (Char × List Char) := do
  let (high, rest) ← hex4? cs
  if 0xD800 ≤ high && high < 0xDC00 then
    match rest with
    | '\\' :: 'u' :: rest =>
      let (low, rest) ← hex4? rest
      if 0xDC00 ≤ low && low < 0xE000 then
        return (Char.ofNat (0x10000 + (high - 0xD800) * 1024 + (low - 0xDC00)), rest)
      else none
    | _ => none
  else if 0xDC00 ≤ high && high < 0xE000 then none
  else return (Char.ofNat high, rest)

def readString : Nat → List Char → List Char → Option (String × List Char)
  | 0, _, _ => none
  | _, _, [] => none
  | _, done, '"' :: rest => some (String.ofList done.reverse, rest)
  | fuel + 1, done, '\\' :: 'u' :: rest => do
    let (c, rest) ← unicodeEscape? rest
    readString fuel (c :: done) rest
  | fuel + 1, done, '\\' :: c :: rest =>
    match c with
    | '"' | '\\' | '/' => readString fuel (c :: done) rest
    | 'n' => readString fuel ('\n' :: done) rest
    | 'r' => readString fuel ('\r' :: done) rest
    | 't' => readString fuel ('\t' :: done) rest
    | 'b' => readString fuel ('\x08' :: done) rest
    | 'f' => readString fuel ('\x0c' :: done) rest
    | _ => none
  | fuel + 1, done, c :: rest => if c.toNat < 32 then none else readString fuel (c :: done) rest

def digitsValue (cs : List Char) : Nat := cs.foldl (fun n c => n * 10 + (c.toNat - 48)) 0

def spanDigits (cs : List Char) : List Char × List Char := cs.span Char.isDigit

def readExponent (cs : List Char) : Option (Int × List Char) :=
  let (negative, cs) := match cs with
    | '-' :: rest => (true, rest)
    | '+' :: rest => (false, rest)
    | _ => (false, cs)
  let (ds, rest) := spanDigits cs
  if ds.isEmpty then none
  else some (if negative then -(digitsValue ds : Int) else (digitsValue ds : Int), rest)

/-- A whole number of 64 bits with or without a sign stays one; minus zero and all others become
floating-point values. -/
def wholeNumber (negative : Bool) (n : Nat) : Number :=
  if negative then
    if n = 0 then .float (.zero true)
    else if n ≤ Number.signedBound then .whole (-(n : Int))
    else .float (Number.double.ofInt (-(n : Int)))
  else if n < Number.wordCount then .whole n
  else .float (Number.double.ofInt n)

def appendDigits (n : Nat) : List Char → Nat × Nat
  | [] => (n, 0)
  | c :: cs =>
    let next := n * 10 + (c.toNat - 48)
    if next < Number.wordCount then appendDigits next cs else (n, cs.length + 1)

def readFraction : List Char → Option (List Char × List Char)
  | '.' :: rest =>
    let (fs, rest) := spanDigits rest
    if fs.isEmpty then none else some (fs, rest)
  | rest => some ([], rest)

def readOptionalExponent : List Char → Option (Option Int × List Char)
  | c :: rest =>
    if c == 'e' || c == 'E' then (readExponent rest).map fun (e, rest) => (some e, rest)
    else some (none, c :: rest)
  | [] => some (none, [])

def readNumber (cs : List Char) : Option (Number × List Char) := do
  let (negative, cs) := match cs with
    | '-' :: rest => (true, rest)
    | _ => (false, cs)
  let (ds, rest) := spanDigits cs
  if ds.isEmpty || (ds.length > 1 && ds.head? == some '0') then none
  else
    let (fraction, rest) ← readFraction rest
    let (exponent, rest) ← readOptionalExponent rest
    let (n, dropped) := appendDigits 0 ds
    if dropped = 0 && fraction.isEmpty && exponent.isNone then
      some (wholeNumber negative n, rest)
    else
      let (n, ignored) := appendDigits n fraction
      let places := (fraction.length : Int) - ignored
      let x ← Number.readScaled negative n (exponent.getD 0 + dropped - places)
      some (.float x, rest)

def word? (w : String) (cs : List Char) : Option (List Char) :=
  if w.toList.isPrefixOf cs then some (cs.drop w.length) else none

mutual

def readValue : Nat → List Char → Option (Json × List Char)
  | 0, _ => none
  | fuel + 1, cs =>
    match skipSpaces cs with
    | [] => none
    | '"' :: rest => (readString fuel [] rest).map fun (s, rest) => (.str s, rest)
    | '[' :: rest =>
      match skipSpaces rest with
      | ']' :: rest => some (.arr [], rest)
      | rest => (readItems fuel [] rest).map fun (items, rest) => (.arr items, rest)
    | '\x7b' :: rest =>
      match skipSpaces rest with
      | '\x7d' :: rest => some (.obj [], rest)
      | rest => (readMembers fuel [] rest).map fun (members, rest) => (.obj members, rest)
    | 'n' :: rest => (word? "ull" rest).map (Json.null, ·)
    | 't' :: rest => (word? "rue" rest).map (Json.bool true, ·)
    | 'f' :: rest => (word? "alse" rest).map (Json.bool false, ·)
    | c :: rest => (readNumber (c :: rest)).map fun (n, rest) => (.num n, rest)

def readItems : Nat → List Json → List Char → Option (List Json × List Char)
  | 0, _, _ => none
  | fuel + 1, done, cs => do
    let (j, rest) ← readValue fuel cs
    match skipSpaces rest with
    | ',' :: rest => readItems fuel (j :: done) rest
    | ']' :: rest => some ((j :: done).reverse, rest)
    | _ => none

def readMembers : Nat → Members → List Char → Option (Members × List Char)
  | 0, _, _ => none
  | fuel + 1, done, cs =>
    match skipSpaces cs with
    | '"' :: rest => do
      let (key, rest) ← readString fuel [] rest
      match skipSpaces rest with
      | ':' :: rest =>
        let (value, rest) ← readValue fuel rest
        let done := done.insert key value
        match skipSpaces rest with
        | ',' :: rest => readMembers fuel done rest
        | '\x7d' :: rest => some (done, rest)
        | _ => none
      | _ => none
    | _ => none

end

def parse? (text : String) : Option Json := do
  let cs := text.toList
  let (j, rest) ← readValue (2 * cs.length + 2) cs
  if (skipSpaces rest).isEmpty then some j else none

end PuzzlePrep.Json

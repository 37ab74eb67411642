import PuzzlePrep.Number.Word

namespace PuzzlePrep.Shell.Arithmetic

def wrap (i : Int) : Int := i.bmod Number.wordCount

def bits (i : Int) : Nat := (i % Number.wordCount).toNat

def ofBool (b : Bool) : Int := if b then 1 else 0

def levels : List (List (String × (Int → Int → Except String Int))) :=
  [[("||", fun a b => pure (ofBool (a != 0 || b != 0)))],
   [("&&", fun a b => pure (ofBool (a != 0 && b != 0)))],
   [("|", fun a b => pure (Int.ofNat (bits a ||| bits b)))],
   [("^", fun a b => pure (Int.ofNat (bits a ^^^ bits b)))],
   [("&", fun a b => pure (Int.ofNat (bits a &&& bits b)))],
   [("==", fun a b => pure (ofBool (a == b))), ("!=", fun a b => pure (ofBool (a != b)))],
   [("<=", fun a b => pure (ofBool (a ≤ b))), (">=", fun a b => pure (ofBool (b ≤ a))),
    ("<", fun a b => pure (ofBool (a < b))), (">", fun a b => pure (ofBool (b < a)))],
   [("<<", fun a b => pure (a * Nat.pow 2 (b % 64).toNat)),
    (">>", fun a b => pure (a / Nat.pow 2 (b % 64).toNat))],
   [("+", fun a b => pure (a + b)), ("-", fun a b => pure (a - b))],
   [("*", fun a b => pure (a * b)), ("/", fun a b => if b = 0 then throw "division by zero" else pure (a.tdiv b)),
    ("%", fun a b => if b = 0 then throw "division by zero" else pure (a.tmod b))]]

def signs : List String :=
  ["||", "&&", "==", "!=", "<=", ">=", "<<", ">>", "|", "^", "&", "<", ">", "+", "-", "*", "/",
    "%", "!", "~", "(", ")", "?", ":"]

inductive Token
  | number (i : Int)
  | sign (s : String)

def digitValue (c : Char) : Nat :=
  if c.isDigit then c.toNat - 48
  else if 'a' ≤ c ∧ c ≤ 'f' then c.toNat - 87
  else if 'A' ≤ c ∧ c ≤ 'F' then c.toNat - 55
  else 99

def number? (cs : List Char) : Option Int :=
  let (base, digits) := match cs with
    | '0' :: 'x' :: rest | '0' :: 'X' :: rest => (16, rest)
    | '0' :: c :: rest => (8, c :: rest)
    | cs => (10, cs)
  if digits.isEmpty || digits.any (fun c => base ≤ digitValue c) then none
  else some (wrap (Int.ofNat (digits.foldl (fun n c => base * n + digitValue c) 0)))

def integer? (cs : List Char) : Option Int :=
  let cs := cs.dropWhile fun c => c == ' ' || c == '\t' || c == '\n'
  let back := cs.reverse.dropWhile fun c => c == ' ' || c == '\t' || c == '\n'
  match back.reverse with
  | '-' :: rest => (number? rest).map (wrap <| -·)
  | '+' :: rest => number? rest
  | cs => number? cs

def tokens (value : String → Option String) : Nat → List Char → Option (List Token)
  | 0, _ => none
  | _, [] => some []
  | fuel + 1, c :: cs =>
    if c == ' ' || c == '\t' || c == '\n' then tokens value fuel cs
    else
      let inWord : Char → Bool := fun d => d.isAlphanum || d == '_'
      let word := (c :: cs).takeWhile inWord
      let rest := (c :: cs).dropWhile inWord
      if word.isEmpty then do
        let s ← signs.find? fun s => s.toList.isPrefixOf (c :: cs)
        return .sign s :: (← tokens value fuel ((c :: cs).drop s.length))
      else if c.isDigit then do
        return .number (← number? word) :: (← tokens value fuel rest)
      else do
        let i ← match value (String.ofList word) with
          | none => some 0
          | some s => if s = "" then some 0 else integer? s.toList
        return .number i :: (← tokens value fuel rest)

def noPrimary : String := "expecting primary"

mutual

def expression (fuel level : Nat) (ts : List Token) : Except String (Int × List Token) :=
  match fuel with
  | 0 => throw noPrimary
  | fuel + 1 =>
    match levels[level]? with
    | none => operand fuel ts
    | some _ => do
      let (a, ts) ← expression fuel (level + 1) ts
      continued fuel level a ts

def continued (fuel level : Nat) (a : Int) (ts : List Token) : Except String (Int × List Token) :=
  match fuel with
  | 0 => throw noPrimary
  | fuel + 1 =>
    match ts with
    | .sign s :: rest =>
      match (levels[level]?.getD []).lookup s with
      | some f => do
        let (b, rest) ← expression fuel (level + 1) rest
        continued fuel level (wrap (← f a b)) rest
      | none =>
        if s == "?" && level == 0 then do
          let (yes, rest) ← expression fuel 0 rest
          match rest with
          | .sign ":" :: rest => do
            let (no, rest) ← expression fuel 0 rest
            return (if a != 0 then yes else no, rest)
          | _ => throw "expecting ':'"
        else return (a, ts)
    | ts => return (a, ts)

def operand (fuel : Nat) (ts : List Token) : Except String (Int × List Token) :=
  match fuel with
  | 0 => throw noPrimary
  | fuel + 1 =>
    match ts with
    | .number i :: rest => return (i, rest)
    | .sign "-" :: rest => (operand fuel rest).map fun (i, r) => (wrap (-i), r)
    | .sign "+" :: rest => operand fuel rest
    | .sign "!" :: rest => (operand fuel rest).map fun (i, r) => (ofBool (i == 0), r)
    | .sign "~" :: rest => (operand fuel rest).map fun (i, r) => (-i - 1, r)
    | .sign "(" :: rest => do
      let (i, rest) ← expression fuel 0 rest
      match rest with
      | .sign ")" :: rest => return (i, rest)
      | _ => throw "expecting ')'"
    | _ => throw noPrimary

end

def eval (value : String → Option String) (cs : List Char) : Except String Int := do
  let ts ← ((tokens value (cs.length + 1) cs).map pure).getD (throw noPrimary)
  if ts.isEmpty then return 0
  let (i, rest) ← expression (16 * ts.length + 16) 0 ts
  if rest.isEmpty then return i else throw "expecting EOF"

def assignment? (cs : List Char) : Option (String × List Char × List Char) :=
  let cs := cs.dropWhile fun c => c == ' ' || c == '\t' || c == '\n'
  let inName : Char → Bool := fun d => d.isAlphanum || d == '_'
  let name := cs.takeWhile inName
  let rest := (cs.dropWhile inName).dropWhile (· == ' ')
  if name.isEmpty || (name.head?.any Char.isDigit) then none
  else
    match rest with
    | '=' :: '=' :: _ => none
    | '=' :: value => some (String.ofList name, [], value)
    | c :: '=' :: value =>
      if "+-*/%&|^".toList.contains c then some (String.ofList name, [c], value) else none
    | _ => none

end PuzzlePrep.Shell.Arithmetic

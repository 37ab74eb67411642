import PuzzlePrep.Shell.Script
import PuzzlePrep.Text.Cut

namespace PuzzlePrep.Shell

inductive Token
  | word (w : Word)
  | operator (s : String)
  | redirect (channel : Nat) (direction : Direction)
  | document (channel : Nat) (body : Word)
  | newline
  deriving Inhabited

structure Located where
  line : Nat
  token : Token

structure Mistake where
  line : Nat
  text : String

inductive Ending
  | blank
  | mark
  | brace
  | none
  deriving DecidableEq

namespace Ending

def metacharacters : List Char := [' ', '\t', '\n', ';', '&', '|', '<', '>', '(', ')']

def stops : Ending → Char → Bool
  | .blank, c => metacharacters.contains c
  | .mark, c => c == '\x22'
  | .brace, c => c == '\x7d'
  | .none, _ => false

end Ending

def enclosed (depth : Nat) : List Char → Option (List Char × List Char)
  | [] => none
  | '\\' :: c :: cs => (enclosed depth cs).map fun (a, b) => ('\\' :: c :: a, b)
  | '\x27' :: cs =>
    let quoted := cs.takeWhile (· != '\x27')
    match h : cs.dropWhile (· != '\x27') with
    | [] => none
    | q :: rest =>
      have : rest.length < cs.length := by
        have := (List.dropWhile_suffix (l := cs) (· != '\x27')).length_le
        rw [h] at this
        simp only [List.length_cons] at this
        omega
      (enclosed depth rest).map fun (a, b) => ('\x27' :: quoted ++ q :: a, b)
  | '(' :: cs => (enclosed (depth + 1) cs).map fun (a, b) => ('(' :: a, b)
  | ')' :: cs =>
    match depth with
    | 0 => some ([], cs)
    | n + 1 => (enclosed n cs).map fun (a, b) => (')' :: a, b)
  | c :: cs => (enclosed depth cs).map fun (a, b) => (c :: a, b)
termination_by cs => cs.length

def backquoted : List Char → Option (List Char × List Char)
  | [] => none
  | '\x60' :: cs => some ([], cs)
  | '\\' :: c :: cs =>
    (backquoted cs).map fun (a, b) =>
      (if ['\x60', '\\', '$'].contains c then c :: a else '\\' :: c :: a, b)
  | c :: cs => (backquoted cs).map fun (a, b) => (c :: a, b)

def specialNames : List Char := ['@', '*', '#', '?', '-', '$', '!']

def nameAtFront (braces : Bool) (cs : List Char) : Option (String × List Char) :=
  match cs with
  | [] => none
  | c :: rest =>
    if specialNames.contains c then some (c.toString, rest)
    else if c.isDigit then
      if braces then some (String.ofList (cs.takeWhile Char.isDigit), cs.dropWhile Char.isDigit)
      else some (c.toString, rest)
    else if c.isAlpha || c == '_' then
      let inName : Char → Bool := fun d => d.isAlphanum || d == '_'
      some (String.ofList (cs.takeWhile inName), cs.dropWhile inName)
    else none

def modifierAtFront : List Char → Option (Modifier × List Char)
  | '\x7d' :: cs => some (.plain, '\x7d' :: cs)
  | ':' :: '-' :: cs => some (.fallback true, cs)
  | '-' :: cs => some (.fallback false, cs)
  | ':' :: '=' :: cs => some (.assigned true, cs)
  | '=' :: cs => some (.assigned false, cs)
  | ':' :: '+' :: cs => some (.alternative true, cs)
  | '+' :: cs => some (.alternative false, cs)
  | ':' :: '?' :: cs => some (.required true, cs)
  | '?' :: cs => some (.required false, cs)
  | '#' :: '#' :: cs => some (.withoutFront true, cs)
  | '#' :: cs => some (.withoutFront false, cs)
  | '%' :: '%' :: cs => some (.withoutBack true, cs)
  | '%' :: cs => some (.withoutBack false, cs)
  | ':' :: '\x7d' :: cs => some (.unknown, cs)
  | _ => none

def escapable (ending : Ending) (c : Char) : Bool :=
  ['$', '\x60', '\\'].contains c || (c == '\x22' && ending != .none) || (c == '\x7d' && ending == .brace)

abbrev Scan := Except String

def openQuote : String := "Syntax error: Unterminated quoted string"

def openParenthesis (inner : List Char) : String :=
  if inner.head? == some '(' then "Syntax error: Missing '))'"
  else if inner.count '\x22' % 2 = 1 then openQuote
  else "Syntax error: end of file unexpected (expecting \")\")"

def parameterAtFront (cs : List Char) : String × Modifier × List Char :=
  match cs with
  | '#' :: '\x7d' :: _ => ("#", .plain, cs.drop 1)
  | '#' :: rest =>
    match nameAtFront true rest with
    | some (name, '\x7d' :: after) => (name, .length, '\x7d' :: after)
    | _ => ("#", .unknown, rest)
  | _ =>
    match nameAtFront true cs with
    | none => ("", .unknown, cs)
    | some (name, rest) =>
      match modifierAtFront rest with
      | some (modifier, rest) => (name, modifier, rest)
      | none => (name, .unknown, rest)

mutual

def pieces (fuel : Nat) (ending : Ending) (quoted : Bool) (cs : List Char) :
    Scan (Word × List Char) :=
  match fuel with
  | 0 => throw openQuote
  | fuel + 1 =>
    match cs with
    | [] =>
      match ending with
      | .blank | .none => return ([], [])
      | .mark => throw openQuote
      | .brace => throw "Syntax error: Missing '\x7d'"
    | c :: rest =>
      if ending.stops c then return ([], c :: rest)
      else
        let behind (as : Bool) (front rest : List Char) : Scan (Word × List Char) := do
          let (w, r) ← pieces fuel ending quoted rest
          return (Word.pushText as front w, r)
        match c with
        | '\\' =>
          match rest with
          | [] => return ([.text quoted ['\\']], [])
          | '\n' :: rest => pieces fuel ending quoted rest
          | d :: rest =>
            if quoted && !escapable ending d then behind quoted ['\\'] (d :: rest)
            else behind true [d] rest
        | '\x27' =>
          if quoted then behind quoted ['\x27'] rest
          else
            match rest.dropWhile (· != '\x27') with
            | [] => throw openQuote
            | _ :: after => behind true (rest.takeWhile (· != '\x27')) after
        | '\x22' =>
          if quoted && ending == .none then behind quoted ['\x22'] rest
          else do
            let (inner, after) ← pieces fuel .mark true rest
            let (w, r) ← pieces fuel ending quoted (after.drop 1)
            return (Word.pushText true [] (inner ++ w), r)
        | '\x60' =>
          match backquoted rest with
          | none => throw "Syntax error: EOF in backquote substitution"
          | some (script, after) => do
            let (w, r) ← pieces fuel ending quoted after
            return (.output quoted script :: w, r)
        | '$' => do
          let (piece, after) ← dollar fuel quoted rest
          let (w, r) ← pieces fuel ending quoted after
          match piece with
          | .text q cs => return (Word.pushText q cs w, r)
          | piece => return (piece :: w, r)
        | c => behind quoted [c] rest

def dollar (fuel : Nat) (quoted : Bool) (cs : List Char) : Scan (Piece × List Char) :=
  match fuel with
  | 0 => throw openQuote
  | fuel + 1 =>
    match cs with
    | '(' :: rest =>
      match enclosed 0 rest with
      | none => throw (openParenthesis rest)
      | some (inner, after) =>
        match inner, inner.getLast? with
        | '(' :: body, some ')' => do
          let (w, _) ← pieces fuel .none true body.dropLast
          return (.number quoted w, after)
        | _, _ => return (.output quoted inner, after)
    | '\x7b' :: rest => do
      let (name, modifier, rest) := parameterAtFront rest
      let (operand, after) ← pieces fuel .brace quoted rest
      return (.parameter quoted name modifier operand, after.drop 1)
    | cs =>
      match nameAtFront false cs with
      | some (name, rest) => return (.parameter quoted name .plain [], rest)
      | none => return (.text quoted ['$'], cs)

end

def documentText (tabs : Bool) (delimiter : List Char) :
    List (List Char) → List Char × List (List Char)
  | [] => ([], [])
  | line :: rest =>
    let line := if tabs then line.dropWhile (· == '\t') else line
    if line = delimiter then ([], rest)
    else
      let (body, after) := documentText tabs delimiter rest
      ((if rest.isEmpty then line else line ++ ['\n']) ++ body, after)

def Word.spelling (w : Word) : List Char × Bool :=
  (w.flatMap fun p => match p with
    | .text _ cs => cs
    | _ => [],
   w.any fun p => match p with
    | .text quoted _ => quoted
    | _ => false)

def takeDocument (tabs : Bool) (delimiter : Word) (cs : List Char) : Scan (Word × List Char) :=
  let (name, literal) := delimiter.spelling
  match delimiter, cs, Text.pieces (· == '\n') cs with
  | [], [], _ => throw "Syntax error: end of file unexpected"
  | [], '\n' :: _, _ => throw "Syntax error: newline unexpected"
  | _, _, [] => return ([], cs)
  | _, _, line :: rest => do
    let (text, after) := documentText tabs name rest
    let cs := Text.join ['\n'] (line :: after)
    if literal then return ([.text true text], cs)
    else
      let (w, _) ← pieces (text.length + 1) .none true text
      return (w, cs)

def operators : List String := ["&&", "||", ";;", ";", "&", "|", "(", ")"]

def directions : List (String × Direction × Nat) :=
  [(">>", .append, 1), (">&", .copy, 1), (">|", .replace, 1), (">", .write, 1), ("<&", .copy, 0),
    ("<", .read, 0)]

def atFront? {α : Type} (table : List (String × α)) (cs : List Char) : Option (α × List Char) :=
  table.findSome? fun (s, a) => (Text.after? s.toList cs).map (a, ·)

def tokens (fuel lines : Nat) (cs : List Char) : List Located × Option Mistake :=
  match fuel with
  | 0 => ([], none)
  | fuel + 1 =>
    let line := lines - cs.count '\n'
    let more (t : Token) (rest : List Char) : List Located × Option Mistake :=
      let (ts, mistake) := tokens fuel lines rest
      (⟨line, t⟩ :: ts, mistake)
    let digits := cs.takeWhile Char.isDigit
    let channel := if digits.isEmpty then none else (String.ofList digits).toNat?
    let afterDigits := cs.dropWhile Char.isDigit
    match cs with
    | [] => ([], none)
    | ' ' :: rest => tokens fuel lines rest
    | '\t' :: rest => tokens fuel lines rest
    | '\\' :: '\n' :: rest => tokens fuel lines rest
    | '#' :: rest => tokens fuel lines (rest.dropWhile (· != '\n'))
    | '\n' :: rest => more .newline rest
    | cs =>
      match atFront? [("<<-", true), ("<<", false)] afterDigits with
      | some (tabs, rest) =>
        let rest := rest.dropWhile fun c => c == ' ' || c == '\t'
        match (pieces (rest.length + 1) .blank false rest).bind fun (delimiter, rest) =>
            takeDocument tabs delimiter rest with
        | .ok (body, rest) => more (.document (channel.getD 0) body) rest
        | .error text => ([], some ⟨line, text⟩)
      | none =>
        match atFront? directions afterDigits with
        | some ((direction, usual), rest) =>
          more (.redirect (channel.getD usual) direction) rest
        | none =>
          match atFront? (operators.map fun s => (s, s)) cs with
          | some (s, rest) => more (.operator s) rest
          | none =>
            match pieces (cs.length + 1) .blank false cs with
            | .ok (w, rest) => more (.word w) rest
            | .error text => ([], some ⟨line, text⟩)

def lineCount (script : List Char) : Nat := script.count '\n' + 1

def Token.scan (script : List Char) : List Located × Option Mistake :=
  tokens (script.length + 1) (lineCount script) script

end PuzzlePrep.Shell

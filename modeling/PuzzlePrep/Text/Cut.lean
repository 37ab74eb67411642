import PuzzlePrep.Text.Blank

namespace PuzzlePrep.Text

def after? : List Char → List Char → Option (List Char)
  | [], cs => some cs
  | _ :: _, [] => none
  | w :: ws, c :: cs => if w = c then after? ws cs else none

def startsWith (word cs : List Char) : Bool := (after? word cs).isSome

def cutAt? (word : List Char) : List Char → Option (List Char × List Char)
  | [] => (after? word []).map ([], ·)
  | c :: cs =>
    match after? word (c :: cs) with
    | some rest => some ([], rest)
    | none => (cutAt? word cs).map fun (before, rest) => (c :: before, rest)

def countOf (word : List Char) : List Char → Nat
  | [] => if startsWith word [] then 1 else 0
  | c :: cs => (if startsWith word (c :: cs) then 1 else 0) + countOf word cs

def indexOf? (word : List Char) : List Char → Option Nat
  | [] => if startsWith word [] then some 0 else none
  | c :: cs => if startsWith word (c :: cs) then some 0 else (indexOf? word cs).map (· + 1)

def lengthAtStart? (words : List (List Char)) (cs : List Char) : Option Nat :=
  (words.find? (startsWith · cs)).map List.length

/-- The text without the occurrences of `words`, taken from left to right without overlap;
`skip` characters of an occurrence are still to be dropped. -/
def eraseFrom (words : List (List Char)) (skip : Nat) : List Char → List Char
  | [] => []
  | c :: cs =>
    match skip with
    | n + 1 => eraseFrom words n cs
    | 0 =>
      match lengthAtStart? words (c :: cs) with
      | some (n + 1) => eraseFrom words n cs
      | _ => c :: eraseFrom words 0 cs

def erase (words : List (List Char)) (cs : List Char) : List Char := eraseFrom words 0 cs

/-- The pieces between the characters that satisfy `p`; one more than there are such characters. -/
def pieces (p : Char → Bool) : List Char → List (List Char)
  | [] => [[]]
  | c :: cs =>
    if p c then [] :: pieces p cs
    else match pieces p cs with
      | piece :: more => (c :: piece) :: more
      | [] => [[c]]

def lines (cs : List Char) : List (List Char) := pieces (· == '\n') cs

def join (sep : List Char) : List (List Char) → List Char
  | [] => []
  | [t] => t
  | t :: more => t ++ sep ++ join sep more

end PuzzlePrep.Text

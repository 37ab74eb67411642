import PuzzlePrep.Text.Cut

namespace PuzzlePrep.Text

def escapedNewline : List Char := ['\\', 'n']

def unescapeNewlines : List Char → List Char
  | '\\' :: 'n' :: rest => '\n' :: unescapeNewlines rest
  | c :: rest => c :: unescapeNewlines rest
  | [] => []

def contains (word cs : List Char) : Bool := (indexOf? word cs).isSome

def normalizeNewlines (cs : List Char) : List Char :=
  if contains escapedNewline cs && !cs.contains '\n' then unescapeNewlines cs else cs

end PuzzlePrep.Text

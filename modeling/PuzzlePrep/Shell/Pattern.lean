namespace PuzzlePrep.Shell

/-- A character of an expanded word: written plainly, quoted, or brought in by an expansion. The
others mark where a field ends, that there is a field and that there may be none. -/
inductive Glyph
  | plain (c : Char)
  | fixed (c : Char)
  | loose (c : Char)
  | boundary
  | present
  | vanished
  deriving DecidableEq, Inhabited

namespace Glyph

def char? : Glyph → Option Char
  | .plain c | .fixed c | .loose c => some c
  | _ => none

def active? : Glyph → Option Char
  | .plain c | .loose c => some c
  | _ => none

def text (gs : List Glyph) : List Char := gs.filterMap char?

def field? (glyphs : List Glyph) : Option (List Glyph) :=
  if (text glyphs).isEmpty && (!glyphs.contains .present || glyphs.contains .vanished) then none
  else some glyphs.reverse

/-- The fields of an expanded word. Blanks among the separators part fields; any other separator
ends one. -/
def fields (separators : List Char) : List Glyph → List Glyph → List (List Glyph)
  | current, [] => (field? current).toList
  | current, .boundary :: rest => (field? current).toList ++ fields separators [] rest
  | current, .loose c :: rest =>
    if separators.contains c then
      if c == ' ' || c == '\t' || c == '\n' then
        (field? current).toList ++ fields separators [] rest
      else current.reverse :: fields separators [] rest
    else fields separators (.loose c :: current) rest
  | current, g :: rest => fields separators (g :: current) rest

end Glyph

namespace Pattern

def rangeEnd? (rest : List Glyph) : Option (Char × List Glyph) :=
  match rest with
  | d :: e :: after =>
    if d.active? == some '-' && e.active? != some ']' then e.char?.map (·, after) else none
  | _ => none

def ranges (fuel : Nat) (first : Bool) (gs : List Glyph) :
    Option (List (Char × Char) × List Glyph) :=
  match fuel, gs with
  | 0, _ => none
  | _, [] => none
  | fuel + 1, g :: rest =>
    if g.active? == some ']' && !first then some ([], rest)
    else
      match g.char?, rangeEnd? rest with
      | none, _ => ranges fuel first rest
      | some c, some (upper, after) =>
        (ranges fuel false after).map fun (rs, r) => ((c, upper) :: rs, r)
      | some c, none => (ranges fuel false rest).map fun (rs, r) => ((c, c) :: rs, r)

inductive Item
  | any
  | one
  | same (c : Char)
  | among (negated : Bool) (rs : List (Char × Char))

def items : Nat → List Glyph → List Item
  | 0, _ => []
  | _, [] => []
  | fuel + 1, g :: rest =>
    let same : List Item := match g.char? with
      | some c => .same c :: items fuel rest
      | none => items fuel rest
    match g.active? with
    | some '*' => .any :: items fuel rest
    | some '?' => .one :: items fuel rest
    | some '[' =>
      let (negated, body) := match rest with
        | h :: t => if h.active? == some '!' || h.active? == some '^' then (true, t) else (false, rest)
        | [] => (false, rest)
      match ranges (body.length + 1) true body with
      | some (rs, after) => .among negated rs :: items fuel after
      | none => same
    | _ => same

def accepts : List Item → List Char → Bool
  | [], cs => cs.isEmpty
  | .any :: rest, [] => accepts rest []
  | .any :: rest, c :: cs => accepts rest (c :: cs) || accepts (.any :: rest) cs
  | .one :: rest, _ :: cs => accepts rest cs
  | .same d :: rest, c :: cs => c == d && accepts rest cs
  | .among negated rs :: rest, c :: cs =>
    (rs.any fun (a, b) => a ≤ c && c ≤ b) != negated && accepts rest cs
  | _ :: _, [] => false
termination_by is cs => is.length + cs.length

def ofGlyphs (gs : List Glyph) : List Item := items (gs.length + 1) gs

def isWild (gs : List Glyph) : Bool :=
  gs.any fun g => (g.active?).any fun c => c == '*' || c == '?' || c == '['

def cuts (cs : List Char) : List Nat := List.range (cs.length + 1)

def dropFront (longest : Bool) (p : List Item) (cs : List Char) : List Char :=
  let order := if longest then (cuts cs).reverse else cuts cs
  match order.find? fun n => accepts p (cs.take n) with
  | some n => cs.drop n
  | none => cs

def dropBack (longest : Bool) (p : List Item) (cs : List Char) : List Char :=
  let order := if longest then cuts cs else (cuts cs).reverse
  match order.find? fun n => accepts p (cs.drop n) with
  | some n => cs.take n
  | none => cs

end Pattern

end PuzzlePrep.Shell

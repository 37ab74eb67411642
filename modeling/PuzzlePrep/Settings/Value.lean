import PuzzlePrep.Number.Shortest
import PuzzlePrep.Text.Quoted

namespace PuzzlePrep

/-- A value. A single character is no text of its own kind: it is read as a text, but it names no
variant. -/
inductive Setting
  | absent
  | flag (b : Bool)
  | signed (i : Int)
  | unsigned (n : Nat)
  | real (x : Number.Binary)
  | text (s : String)
  | letter (c : Char)
  | list (items : List Setting)
  | table (members : List (String × Setting))
  deriving Inhabited

namespace Setting

abbrev Members := List (String × Setting)

def Members.get? (m : Members) (key : String) : Option Setting := m.lookup key

def Members.insert (key : String) (value : Setting) : Members → Members
  | [] => [(key, value)]
  | (k, v) :: rest =>
    if key < k then (key, value) :: (k, v) :: rest
    else if key = k then (key, value) :: rest
    else (k, v) :: insert key value rest

def Members.ofList (pairs : List (String × Setting)) : Members :=
  pairs.foldl (fun m (key, value) => m.insert key value) []

mutual

def atop (low : Setting) : Setting → Setting
  | .table members =>
    match low with
    | .table below => .table (membersOver below members)
    | _ => .table members
  | high => high

def membersOver (below : Members) : List (String × Setting) → Members
  | [] => below
  | (key, value) :: rest =>
    let merged := match below.get? key with
      | some low => atop low value
      | none => value
    membersOver (below.insert key merged) rest

end

def nest : List String → Setting → Setting
  | [], value => value
  | key :: more, value => .table [(key, nest more value)]

def describe : Setting → String
  | .absent => "option"
  | .flag b => "bool " ++ (if b then "true" else "false")
  | .signed i => "signed int `" ++ toString i ++ "`"
  | .unsigned n => "unsigned int `" ++ toString n ++ "`"
  | .real x => "float `" ++ Number.double.text Number.plainNotation x ++ "`"
  | .text s => "string " ++ Text.quoted s
  | .letter c => "string " ++ Text.quoted (String.singleton c)
  | .list _ => "sequence"
  | .table _ => "map"

end Setting

end PuzzlePrep

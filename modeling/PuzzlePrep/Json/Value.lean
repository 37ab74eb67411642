import PuzzlePrep.Number.Binary

namespace PuzzlePrep

inductive Json.Number
  | whole (i : Int)
  | float (x : PuzzlePrep.Number.Binary)
  deriving DecidableEq, Repr, Inhabited

inductive Json
  | null
  | bool (b : Bool)
  | num (n : Json.Number)
  | str (s : String)
  | arr (items : List Json)
  | obj (members : List (String × Json))
  deriving Repr, Inhabited

namespace Json

abbrev Members := List (String × Json)

def whole (i : Int) : Json := .num (.whole i)

def Members.get? (m : Members) (key : String) : Option Json :=
  (m.find? (·.1 == key)).map (·.2)

def Members.insert (key : String) (value : Json) : Members → Members
  | [] => [(key, value)]
  | (k, v) :: rest =>
    if key < k then (key, value) :: (k, v) :: rest
    else if key = k then (key, value) :: rest
    else (k, v) :: insert key value rest

/-- The members in the order of their keys; of equal keys the last one counts. -/
def Members.ofList (pairs : List (String × Json)) : Members :=
  pairs.foldl (fun m (key, value) => m.insert key value) []

def get (j : Json) (key : String) : Json :=
  match j with
  | .obj m => (Members.get? m key).getD .null
  | _ => .null

def str? : Json → Option String
  | .str s => some s
  | _ => none

def arr? : Json → Option (List Json)
  | .arr items => some items
  | _ => none

def obj? : Json → Option Members
  | .obj m => some m
  | _ => none

def bool? : Json → Option Bool
  | .bool b => some b
  | _ => none

def nat? : Json → Option Nat
  | .num (.whole i) => if 0 ≤ i then some i.toNat else none
  | _ => none

def isNull : Json → Bool
  | .null => true
  | _ => false

end Json

end PuzzlePrep

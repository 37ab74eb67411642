import PuzzlePrep.Table.Column
import PuzzlePrep.Number.Binary

namespace PuzzlePrep

structure Schema where
  columns : List Field
  metadata : List (String × String) := []
  deriving DecidableEq, Inhabited

/-- A cell. The members of a record stand in the order of its type. -/
inductive Cell
  | null
  | text (s : String)
  | whole (i : Int)
  | real (x : Number.Binary)
  | bool (b : Bool)
  | list (items : List Cell)
  | record (members : List Cell)
  deriving Inhabited

abbrev Row := List Cell

structure Table where
  schema : Schema
  batches : List (List Row)
  deriving Inhabited

namespace Schema

def names (s : Schema) : List String := s.columns.map Field.name

def column? (s : Schema) (name : String) : Option Field := s.columns.find? (·.name == name)

end Schema

namespace Cell

def isNull : Cell → Bool
  | .null => true
  | _ => false

end Cell

/-- Whether a cell may be null there: the column allows it, or has nothing but nulls. -/
def Field.admits (f : Field) (c : Cell) : Bool :=
  f.nullable || f.type == .null || !c.isNull

namespace Table

def fits (columns : List Field) (r : Row) : Bool := (columns.zip r).all fun (f, c) => f.admits c

def rows (t : Table) : List Row := t.batches.flatten

def rowCount (t : Table) : Nat := t.rows.length

def cellOf (s : Schema) (name : String) (r : Row) : Cell :=
  match s.columns.findIdx? (·.name == name) with
  | some i => r.getD i .null
  | none => .null

def batchSize : Nat := 1024

def cut (size : Nat) : Nat → List Row → List (List Row)
  | 0, _ => []
  | fuel + 1, rows => if rows.isEmpty then [] else rows.take size :: cut size fuel (rows.drop size)

def batchesOf (rows : List Row) : List (List Row) := cut batchSize rows.length rows

end Table

end PuzzlePrep

import PuzzlePrep.Json.Value
import PuzzlePrep.Number.Scaled
import PuzzlePrep.Number.Shortest
import PuzzlePrep.Number.Word
import PuzzlePrep.Table.Basic

namespace PuzzlePrep

def Number.Decimal.withFraction (d : Number.Decimal) : Number.Decimal :=
  if d.digits < 10 then ⟨d.digits * 10, d.exponent - 1⟩ else d

/-- How the decimal of a cell is chosen. In single precision the lower end of an interval never
belongs to it and a tie goes up; in double precision the lower end belongs to it for powers of two
up to the ninth. -/
def cellChoice (f : Number.Format) : Number.Choice :=
  if f.bits = Number.single.bits then ⟨fun _ => false, .upward⟩ else ⟨(· ≤ 9), .toEven⟩

/-- The number that a floating-point cell shows: its shortest decimal in the precision of the
column, read back as double precision. -/
def realJson (f : Number.Format) : Number.Binary → Json
  | .finite negative m scale =>
    if m = 0 then .num (.float (.zero negative))
    else
      let d := (f.shortest (cellChoice f) m scale).withFraction
      match Number.readScaled negative d.digits d.exponent with
      | some x => .num (.float x)
      | none => .null
  | _ => .null

def unboundedOf? (s : String) : Option Number.Binary :=
  [("NaN", Number.Binary.nan), ("inf", .infinite false), ("-inf", .infinite true)].lookup s

namespace Cell

mutual

def toJson (t : ColumnType) : Cell → Json
  | .null => .null
  | .text s => .str s
  | .whole i => Json.whole i
  | .bool b => .bool b
  | .real x => realJson (if t = .float32 then Number.single else Number.double) x
  | .list items =>
    match t with
    | .list item => .arr (itemsJson item.type items)
    | _ => .null
  | .record members =>
    match t with
    | .struct fields => .obj (Json.Members.ofList (membersJson fields.toList members))
    | _ => .null

def itemsJson (t : ColumnType) : List Cell → List Json
  | [] => []
  | c :: rest => toJson t c :: itemsJson t rest

def membersJson (fields : List Field) : List Cell → List (String × Json)
  | [] => []
  | c :: rest =>
    match fields with
    | [] => []
    | f :: fields =>
      let others := membersJson fields rest
      if c.isNull then others else (f.name, toJson f.type c) :: others

end

mutual

/-- The cell of a type that a value stands for, if it fits the type. Null fits only where null is
allowed, or as an item of a list of plain values. -/
def ofJson? (nullable : Bool) : ColumnType → Json → Option Cell
  | t, .null => if nullable || t = .null then some .null else none
  | .utf8, .str s => some (.text s)
  | .largeUtf8, .str s => some (.text s)
  | .bool, .bool b => some (.bool b)
  | .int32, .num (.whole i) => if -2147483648 ≤ i && i < 2147483648 then some (.whole i) else none
  | .int64, .num (.whole i) => if Number.isSigned i then some (.whole i) else none
  | .uint64, .num (.whole i) => if Number.isUnsigned i then some (.whole i) else none
  | .float32, .num (.whole i) => some (.real (Number.single.ofInt i))
  | .float64, .num (.whole i) => some (.real (Number.double.ofInt i))
  | .float32, .num (.float x) => some (.real (Number.single.convert x))
  | .float64, .num (.float x) => some (.real x)
  | .float32, .str s => (unboundedOf? s).map .real
  | .float64, .str s => (unboundedOf? s).map .real
  | .list item, .arr items => (items.mapM (itemOfJson? item)).map .list
  | .struct fields, .obj members => (membersOfJson? fields members).map .record
  | _, _ => none

def itemOfJson? : Field → Json → Option Cell
  | .mk _ type nullable, j => ofJson? (nullable || type.isPlain) type j

def membersOfJson? : Fields → Json.Members → Option (List Cell)
  | .nil, _ => some []
  | .cons (.mk name type nullable) rest, members =>
    match ofJson? nullable type ((members.get? name).getD .null) with
    | some c => (membersOfJson? rest members).map (c :: ·)
    | none => none

end

end Cell

namespace Schema

def rowJson (s : Schema) (r : Row) : Json.Members :=
  Json.Members.ofList (Cell.membersJson s.columns r)

def rowOfJson? (s : Schema) (members : Json.Members) : Option Row :=
  Cell.membersOfJson? (Fields.ofList s.columns) members

end Schema

namespace Table

def rowsJson (t : Table) : List Json.Members := t.rows.map t.schema.rowJson

structure Loaded where
  columns : List String
  rows : List Json.Members

def loadBatches (s : Schema) (limit : Nat) : Nat → List (List Row) → List Json.Members
  | _, [] => []
  | count, batch :: more =>
    if limit ≤ count then []
    else batch.map s.rowJson ++ loadBatches s limit (count + batch.length) more

def load (t : Table) (limit : Option Nat) : Loaded where
  columns := t.schema.names
  rows :=
    match limit with
    | none => t.rowsJson
    | some n => (loadBatches t.schema n 0 t.batches).take n

end Table

end PuzzlePrep

import PuzzlePrep.Text.Quoted

namespace PuzzlePrep

mutual

inductive ColumnType
  | utf8
  | largeUtf8
  | int32
  | int64
  | uint64
  | float32
  | float64
  | bool
  | null
  | list (item : Field)
  | struct (members : Fields)

inductive Field
  | mk (name : String) (type : ColumnType) (nullable : Bool)

inductive Fields
  | nil
  | cons (first : Field) (rest : Fields)

end

deriving instance DecidableEq for ColumnType, Field, Fields
deriving instance Inhabited for ColumnType

namespace Field

def name : Field → String
  | .mk name _ _ => name

def type : Field → ColumnType
  | .mk _ type _ => type

def nullable : Field → Bool
  | .mk _ _ nullable => nullable

def withNullable (f : Field) (nullable : Bool) : Field := .mk f.name f.type nullable

end Field

namespace Fields

def toList : Fields → List Field
  | .nil => []
  | .cons first rest => first :: rest.toList

def ofList : List Field → Fields
  | [] => .nil
  | first :: rest => .cons first (ofList rest)

@[simp] theorem toList_ofList (fs : List Field) : (ofList fs).toList = fs := by
  induction fs with
  | nil => rfl
  | cons f fs ih => simp [ofList, toList, ih]

end Fields

namespace ColumnType

def listOf (t : ColumnType) : ColumnType := .list (.mk "item" t true)

def isPlain : ColumnType → Bool
  | .list _ | .struct _ => false
  | _ => true

def recordOf (members : List (String × ColumnType)) : ColumnType :=
  .struct (Fields.ofList (members.map fun (name, type) => .mk name type true))

mutual

def text : ColumnType → String
  | .utf8 => "Utf8"
  | .largeUtf8 => "LargeUtf8"
  | .int32 => "Int32"
  | .int64 => "Int64"
  | .uint64 => "UInt64"
  | .float32 => "Float32"
  | .float64 => "Float64"
  | .bool => "Boolean"
  | .null => "Null"
  | .list item => "List(" ++ itemText item ++ ")"
  | .struct members => "Struct(" ++ String.intercalate ", " (memberTexts members) ++ ")"

def itemText : Field → String
  | .mk name type nullable =>
    (if nullable then "" else "non-null ") ++ text type ++
      (if name = "item" then "" else ", field: '" ++ name ++ "'")

def memberText : Field → String
  | .mk name type nullable =>
    Text.quoted name ++ ": " ++ (if nullable then "" else "non-null ") ++ text type

def memberTexts : Fields → List String
  | .nil => []
  | .cons first rest => memberText first :: memberTexts rest

end

mutual

def storable : ColumnType → Bool
  | .list item => itemStorable item
  | .struct .nil => false
  | .struct (.cons first rest) => itemStorable first && membersStorable rest
  | _ => true

def itemStorable : Field → Bool
  | .mk _ type _ => storable type

def membersStorable : Fields → Bool
  | .nil => true
  | .cons first rest => itemStorable first && membersStorable rest

end

end ColumnType

end PuzzlePrep

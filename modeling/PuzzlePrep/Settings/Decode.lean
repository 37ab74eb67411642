import PuzzlePrep.Settings.Basic
import PuzzlePrep.Settings.Value

namespace PuzzlePrep

inductive SettingFault
  | wrongType (place : List String) (found : String) (expected : String)
  | wrongValue (place : List String) (found : String) (expected : String)
  | unknownVariant (place : List String) (found : String) (expected : List String)
  | unreadable
  deriving DecidableEq, Repr

namespace SettingFault

def place : SettingFault → List String
  | .wrongType place .. | .wrongValue place .. | .unknownVariant place .. => place
  | .unreadable => []

def oneOf : List String → String
  | [] => "none"
  | [a] => "`" ++ a ++ "`"
  | [a, b] => "`" ++ a ++ "` or `" ++ b ++ "`"
  | more => "one of " ++ String.intercalate ", " (more.map fun a => "`" ++ a ++ "`")

def message? : SettingFault → Option String
  | .wrongType _ found expected =>
    some ("invalid type: found " ++ found ++ ", expected " ++ expected)
  | .wrongValue _ found expected =>
    some ("invalid value " ++ found ++ ", expected " ++ expected)
  | .unknownVariant _ found expected =>
    some ("unknown variant: found `" ++ found ++ "`, expected `" ++ oneOf expected ++ "`")
  | .unreadable => none

end SettingFault

namespace Setting

abbrev Reader (α : Type) := List String → Setting → Except SettingFault α

namespace Reader

def wrongType {α : Type} (expected : String) (place : List String) (j : Setting) :
    Except SettingFault α :=
  .error (.wrongType place j.describe expected)

def string (expected : String) : Reader String
  | _, .text s => .ok s
  | _, .letter c => .ok (String.singleton c)
  | place, j => wrongType expected place j

def text : Reader String := string "a string"

def path : Reader Path := fun place j => (string "path string" place j).map Path.mk

def natural (expected : String) : Reader Nat
  | _, .unsigned n => .ok n
  | place, .signed i =>
    if 0 ≤ i then .ok i.toNat
    else .error (.wrongValue place (Setting.signed i).describe expected)
  | place, j => wrongType expected place j

def itemsFrom {α : Type} (item : Reader α) (place : List String) :
    Nat → List Setting → Except SettingFault (List α)
  | _, [] => .ok []
  | i, j :: rest => do
    let first ← item (place ++ [toString i]) j
    return first :: (← itemsFrom item place (i + 1) rest)

def sequence {α : Type} (item : Reader α) : Reader (List α)
  | place, .list items => itemsFrom item place 0 items
  | place, j => wrongType "a sequence" place j

def optional {α : Type} (value : Reader α) : Reader (Option α)
  | _, .absent => .ok none
  | place, j => (value place j).map some

/-- One of a few names; also a table whose first key is such a name and has no value. -/
def routine : Reader RoutineKind :=
  let named (place : List String) (name : String) : Except SettingFault RoutineKind :=
    match RoutineKind.ofName? name with
    | some r => .ok r
    | none => .error (.unknownVariant place name (RoutineKind.all.map RoutineKind.name))
  fun place j =>
    match j with
    | .text name => named place name
    | .table [] => wrongType "enum" place j
    | .table ((name, inner) :: _) => do
      let r ← named (place ++ [name]) name
      match inner with
      | .absent => return r
      | inner => wrongType "unit" (place ++ [name]) inner
    | j => wrongType "enum RoutineKind" place j

abbrev FieldOf (σ : Type) := String × (List String → Setting → σ → Except SettingFault σ)

def field {σ α : Type} (name : String) (value : Reader α) (put : σ → α → σ) : FieldOf σ :=
  (name, fun place j s => (value place j).map (put s))

def fromMembers {σ : Type} (fields : List (FieldOf σ)) (place : List String) :
    List (String × Setting) → σ → Except SettingFault σ
  | [], s => .ok s
  | (key, j) :: rest, s =>
    match fields.lookup key with
    | none => fromMembers fields place rest s
    | some change => do fromMembers fields place rest (← change (place ++ [key]) j s)

def fromItems {σ : Type} (place : List String) :
    Nat → List (FieldOf σ) → List Setting → σ → Except SettingFault σ
  | i, (_, change) :: fields, j :: rest, s => do
    fromItems place (i + 1) fields rest (← change (place ++ [toString i]) j s)
  | _, _, _, s => .ok s

def ofFields {σ : Type} (expected : String) (fields : List (FieldOf σ)) (start : σ) : Reader σ
  | place, .table members => fromMembers fields place members start
  | place, .list items => fromItems place 0 fields items start
  | place, j => wrongType expected place j

def fetchFields : List (FieldOf FetchSettings) :=
  [field "base_url" text fun s v => { s with baseUrl := v },
   field "timeout_secs" (natural "u64") fun s v => { s with timeoutSecs := v }]

def mergeFields : List (FieldOf MergeSettings) :=
  [field "sources" (sequence text) fun s v => { s with sources := v },
   field "output" text fun s v => { s with output := v }]

def preprocessFields : List (FieldOf PreprocessSettings) :=
  [field "routine" routine fun s v => { s with routine := v },
   field "interpreter" path fun s v => { s with interpreter := v },
   field "venv_path" (optional path) fun s v => { s with venv := v },
   field "script" path fun s v => { s with script := v },
   field "preview" (natural "usize") fun s v => { s with preview := v },
   field "timeout_secs" (natural "u64") fun s v => { s with timeoutSecs := v }]

def trainFields : List (FieldOf TrainSettings) :=
  [field "interpreter" path fun s v => { s with interpreter := v },
   field "module" text fun s v => { s with module := v },
   field "reward_function" path fun s v => { s with rewardFunction := v },
   field "partition" (optional text) fun s v => { s with partition := v },
   field "overrides" (sequence text) fun s v => { s with overrides := v }]

def settingsFields : List (FieldOf Settings) :=
  let d := Settings.default
  [field "raw_dir" path fun s v => { s with rawDir := v },
   field "processed_dir" path fun s v => { s with processedDir := v },
   field "partitions" (sequence text) fun s v => { s with partitions := v },
   field "fetch" (ofFields "struct FetchConfig" fetchFields d.fetch)
    fun s v => { s with fetch := v },
   field "merge" (ofFields "struct MergeConfig" mergeFields d.merge)
    fun s v => { s with merge := v },
   field "preprocess" (ofFields "struct PreprocessConfig" preprocessFields d.preprocess)
    fun s v => { s with preprocess := v },
   field "train" (ofFields "struct TrainConfig" trainFields d.train)
    fun s v => { s with train := v }]

end Reader

end Setting

namespace Settings

def ofSetting (j : Setting) : Except SettingFault Settings :=
  Setting.Reader.ofFields "struct PrepConfig" Setting.Reader.settingsFields default [] j

end Settings

end PuzzlePrep

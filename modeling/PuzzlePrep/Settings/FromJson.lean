import PuzzlePrep.Json.Value
import PuzzlePrep.Settings.Decode

namespace PuzzlePrep

namespace Setting

mutual

def ofJson : Json → Setting
  | .null => .absent
  | .bool b => .flag b
  | .num (.whole i) => if 0 ≤ i then .unsigned i.toNat else .signed i
  | .num (.float x) => .real x
  | .str s => .text s
  | .arr items => .list (itemsOfJson items)
  | .obj members => .table (membersOfJson members)

def itemsOfJson : List Json → List Setting
  | [] => []
  | j :: rest => ofJson j :: itemsOfJson rest

def membersOfJson : List (String × Json) → List (String × Setting)
  | [] => []
  | (key, j) :: rest => (key, ofJson j) :: membersOfJson rest

end

def isLongList (limit : Nat) : Setting → Bool
  | .list items => limit < items.length
  | _ => false

def fieldValue? (name : String) (place : Nat) : Setting → Option Setting
  | .table members => members.lookup name
  | .list items => items[place]?
  | _ => none

def hasSurplus (j : Setting) : Bool :=
  let inner : List (String × Nat × Nat) :=
    [("fetch", 3, Reader.fetchFields.length), ("merge", 4, Reader.mergeFields.length),
      ("preprocess", 5, Reader.preprocessFields.length),
      ("train", 6, Reader.trainFields.length)]
  isLongList Reader.settingsFields.length j ||
    inner.any fun (name, place, limit) => (fieldValue? name place j).any (isLongList limit)

end Setting

namespace Settings

def ofJson? (j : Json) : Option Settings :=
  if j.isNull then some default
  else
    let value := Setting.ofJson j
    if value.hasSurplus then none else (ofSetting value).toOption

end Settings

end PuzzlePrep

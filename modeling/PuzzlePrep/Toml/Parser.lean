import PuzzlePrep.Toml.Value

namespace PuzzlePrep.Toml

/-- How a table came to be: by a header, as a part of the way to another table, or by a key with
points. -/
inductive Origin
  | header
  | passed
  | dotted
  deriving DecidableEq

inductive Node
  | leaf (value : Setting)
  | table (origin : Origin) (members : List (String × Node))
  | tables (items : List (List (String × Node)))

namespace Node

mutual

def toSetting : Node → Setting
  | .leaf value => value
  | .table _ members => .table (Setting.Members.ofList (membersOf members))
  | .tables items => .list (itemsOf items)

def membersOf : List (String × Node) → List (String × Setting)
  | [] => []
  | (key, node) :: rest => (key, toSetting node) :: membersOf rest

def itemsOf : List (List (String × Node)) → List Setting
  | [] => []
  | members :: rest => .table (Setting.Members.ofList (membersOf members)) :: itemsOf rest

end

end Node

abbrev Nodes := List (String × Node)

def Nodes.put (key : String) (node : Node) : Nodes → Nodes
  | [] => [(key, node)]
  | (k, n) :: rest => if k = key then (k, node) :: rest else (k, n) :: put key node rest

def Nodes.change (origin : Origin) (f : Nodes → Option Nodes) : List String → Nodes → Option Nodes
  | [], m => f m
  | key :: more, m =>
    match m.lookup key with
    | none => (change origin f more []).map fun inner => m.put key (.table origin inner)
    | some (.leaf _) => none
    | some (.table was inner) =>
      if origin = .dotted && was = .header then none
      else (change origin f more inner).map fun inner => m.put key (.table was inner)
    | some (.tables items) =>
      (change origin f more (items.getLast?.getD [])).map fun inner =>
        m.put key (.tables (items.dropLast ++ [inner]))

def Nodes.add (key : String) (node : Node) (m : Nodes) : Option Nodes :=
  if (m.lookup key).isSome then none else some (m ++ [(key, node)])

def Nodes.define (keys : List String) (value : Setting) (m : Nodes) : Option Nodes :=
  match keys.getLast? with
  | none => none
  | some key => m.change .dotted (Nodes.add key (.leaf value)) keys.dropLast

def Nodes.openTable (keys : List String) (m : Nodes) : Option Nodes :=
  match keys.getLast? with
  | none => none
  | some key =>
    m.change .passed (fun inner =>
      match inner.lookup key with
      | none => some (inner.put key (.table .header []))
      | some (.table .passed below) => some (inner.put key (.table .header below))
      | some _ => none) keys.dropLast

def Nodes.openNext (keys : List String) (m : Nodes) : Option Nodes :=
  match keys.getLast? with
  | none => none
  | some key =>
    m.change .passed (fun inner =>
      match inner.lookup key with
      | none => some (inner.put key (.tables [[]]))
      | some (.tables items) => some (inner.put key (.tables (items ++ [[]])))
      | some _ => none) keys.dropLast

mutual

def readValue (depth : Nat) : Nat → List Char → Option (Setting × List Char)
  | 0, _ => none
  | fuel + 1, cs =>
    match cs, depth with
    | '[' :: rest, depth + 1 =>
      (readItems depth fuel [] rest).map fun (items, rest) => (.list items, rest)
    | '\x7b' :: rest, depth + 1 =>
      match skipSpaces rest with
      | '\x7d' :: rest => some (.table [], rest)
      | rest =>
        (readInline depth fuel [] rest).map fun (m, rest) => ((Node.table .header m).toSetting, rest)
    | '"' :: _, _ => (string? cs).map fun (s, rest) => (.text s, rest)
    | '\'' :: _, _ => (string? cs).map fun (s, rest) => (.text s, rest)
    | _, _ => plain? cs

def readItems (depth : Nat) : Nat → List Setting → List Char → Option (List Setting × List Char)
  | 0, _, _ => none
  | fuel + 1, done, cs => do
    match ← skipAll cs with
    | ']' :: rest => some (done.reverse, rest)
    | rest =>
      let (value, rest) ← readValue depth fuel rest
      match ← skipAll rest with
      | ',' :: rest => readItems depth fuel (value :: done) rest
      | ']' :: rest => some ((value :: done).reverse, rest)
      | _ => none

def readInline (depth : Nat) : Nat → Nodes → List Char → Option (Nodes × List Char)
  | 0, _, _ => none
  | fuel + 1, done, cs => do
    let (keys, rest) ← keyPath? fuel cs
    match rest with
    | '=' :: rest =>
      let (value, rest) ← readValue depth fuel (skipSpaces rest)
      let done ← done.define keys value
      match skipSpaces rest with
      | ',' :: rest => readInline depth fuel done rest
      | '\x7d' :: rest => some (done, rest)
      | _ => none
    | _ => none

end

structure Document where
  root : Nodes := []
  current : List String := []

def Document.readLine (d : Document) (fuel : Nat) : List Char → Option (Document × List Char)
  | '[' :: '[' :: rest => do
    match ← keyPath? fuel rest with
    | (keys, ']' :: ']' :: rest) => return (⟨← d.root.openNext keys, keys⟩, rest)
    | _ => none
  | '[' :: rest => do
    match ← keyPath? fuel rest with
    | (keys, ']' :: rest) => return (⟨← d.root.openTable keys, keys⟩, rest)
    | _ => none
  | cs => do
    match ← keyPath? fuel cs with
    | (keys, '=' :: rest) =>
      let (value, rest) ← readValue (depthLimit - 1) fuel (skipSpaces rest)
      let root ← d.root.change .passed (Nodes.define keys value) d.current
      return ({ d with root }, rest)
    | _ => none

def endLine? (cs : List Char) : Option (List Char) := do
  match ← skipComment (skipSpaces cs) with
  | [] => some []
  | rest => afterNewline? rest

def Document.readAll : Nat → Document → List Char → Option Document
  | 0, _, _ => none
  | fuel + 1, d, cs => do
    match ← skipAll cs with
    | [] => some d
    | rest =>
      let (d, rest) ← d.readLine (rest.length + 1) rest
      readAll fuel d (← endLine? rest)

def parse? (text : String) : Option Setting := do
  let cs := match text.toList with
    | '\uFEFF' :: rest => rest
    | cs => cs
  let d ← Document.readAll (cs.length + 1) {} cs
  return (Node.table .header d.root).toSetting

end PuzzlePrep.Toml

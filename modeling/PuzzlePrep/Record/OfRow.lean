import PuzzlePrep.Json.Printer
import PuzzlePrep.Number.Word
import PuzzlePrep.Record.Basic
import PuzzlePrep.Record.Prompt
import PuzzlePrep.Record.Reference

namespace PuzzlePrep.Record

def systemPrompt : String :=
  "You are a helpful assistant. The assistant first thinks about the reasoning process in the " ++
  "mind and then provides the user with the answer. The reasoning process and answer are " ++
  "enclosed within <think> </think> and<answer> </answer> tags, respectively, i.e., <think> " ++
  "reasoning process here </think><answer> answer here </answer>. Now the user asks you to " ++
  "solve a logical reasoning problem. After thinking, when you finally reach a conclusion, " ++
  "clearly state the identity of each character within <answer> </answer> tags. i.e., <answer> " ++
  "(1) Zoey is a knight, (2) ... </answer>."

def defaultDataSource : String := "kk_logic"

def defaultAbility : String := "logic"

def textOf : Json → String
  | .str s => s
  | j => j.compact

/-- Neither null, false, zero nor empty. -/
def isTruthy : Json → Bool
  | .null => false
  | .bool b => b
  | .num (.whole i) => i != 0
  | .num (.float x) => !x.isZero
  | .str s => s != ""
  | .arr items => !items.isEmpty
  | .obj members => !members.isEmpty

/-- The text at a key; null counts as missing. -/
def textAt (row : Json.Members) (key : String) : String :=
  match row.get? key with
  | none | some .null => ""
  | some j => textOf j

def textOr (row : Json.Members) (key default : String) : String :=
  let s := textAt row key
  if s = "" then default else s

/-- The texts at a key, which holds a list or a single text. -/
def textsAt (row : Json.Members) (key : String) : List String :=
  match row.get? key with
  | some (.arr items) => (items.filter isTruthy).map textOf
  | some (.str s) => if s = "" then [] else [s]
  | _ => []

def truthyText : Option Json → String
  | some j => if isTruthy j then textOf j else ""
  | none => ""

def messageText? : Json → Option String
  | .obj members => (Json.Members.get? members "content").map textOf
  | _ => none

def question (row : Json.Members) : String :=
  let quiz := textAt row "quiz"
  if quiz ≠ "" then quiz
  else match row.get? "prompt" with
    | some (.arr []) => ""
    | some (.arr (first :: _)) => (messageText? first).getD (textOf first)
    | some j => (messageText? j).getD (truthyText (some j))
    | none => ""

def explanation (row : Json.Members) : Explanation where
  head := (textAt row "cot_head").toList
  steps := (textsAt row "cot_repeat_steps").map String.toList
  foot := (textAt row "cot_foot").toList

def solutionIn (row : Json.Members) : List Char :=
  Text.normalizeNewlines (Text.trim (textAt row "solution_text_format").toList)

def signed (index : Nat) : Int := Int.bmod index Number.wordCount

def ofRow (row : Json.Members) (split : Split) (index : Nat) : Record :=
  let asked := String.ofList (cleanPrompt (question row).toList)
  let solution := solutionIn row
  { dataSource := textOr row "data_source" defaultDataSource
    prompt := [⟨"system", systemPrompt⟩, ⟨"user", asked⟩]
    response := ⟨"assistant", String.ofList (referenceResponse (explanation row) solution)⟩
    names := (row.get? "names").getD (.arr [])
    solution := (row.get? "solution").getD (.arr [])
    solutionText := textAt row "solution_text"
    ability := textOr row "ability" defaultAbility
    truth := ⟨String.ofList solution, truthyText (row.get? "statements")⟩
    split := split
    index := signed index }

end PuzzlePrep.Record

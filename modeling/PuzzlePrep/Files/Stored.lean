import PuzzlePrep.Files.Tree
import PuzzlePrep.Json.Parser
import PuzzlePrep.Json.Printer
import PuzzlePrep.Table.Description

namespace PuzzlePrep.Content

def stored : Content → ByteArray
  | .bytes data => data
  | .table schema rows => (Table.toJson ⟨schema, [rows]⟩).compact.toUTF8

def described? (text : String) : Option Content := do
  return .ofTable (← Table.ofJson? (← Json.parse? text))

/-- The content of a file. Bytes that describe a table, but not in the way in which tables are
stored, are plain bytes. -/
def ofStored (data : ByteArray) : Content :=
  match (String.fromUTF8? data).bind described? with
  | some c => if c.stored.data = data.data then c else .bytes data
  | none => .bytes data

theorem stored_ofStored (data : ByteArray) : (ofStored data).stored = data := by
  unfold ofStored
  split
  · split
    · exact ByteArray.ext (by assumption)
    · rfl
  · rfl

end PuzzlePrep.Content

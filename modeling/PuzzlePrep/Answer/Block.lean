import PuzzlePrep.Answer.Tag
import PuzzlePrep.Text.Newlines

namespace PuzzlePrep

/-- Where the pass stands: between blocks, or in one that has begun with these characters, the last
one first. -/
inductive BlockScan
  | outside
  | inside (taken : List Char)

def BlockScan.run : BlockScan → Nat → List Char → List (List Char)
  | _, _, [] => []
  | state, skip + 1, _ :: cs => state.run skip cs
  | .outside, 0, c :: cs =>
    if Text.startsWith Tag.answer.text (c :: cs) then
      (BlockScan.inside []).run (Tag.answer.text.length - 1) cs
    else BlockScan.outside.run 0 cs
  | .inside taken, 0, c :: cs =>
    if Text.startsWith Tag.endAnswer.text (c :: cs) then
      taken.reverse :: BlockScan.outside.run (Tag.endAnswer.text.length - 1) cs
    else (BlockScan.inside (c :: taken)).run 0 cs

def answerBlocks (cs : List Char) : List (List Char) := BlockScan.outside.run 0 cs

def firstAnswer? (cs : List Char) : Option (List Char) := (answerBlocks cs).head?.map Text.trim

def lastAnswer? (cs : List Char) : Option (List Char) :=
  (answerBlocks cs).getLast?.map fun block => Text.normalizeNewlines (Text.trim block)

end PuzzlePrep

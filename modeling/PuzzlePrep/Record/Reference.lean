import PuzzlePrep.Answer.Tag
import PuzzlePrep.Text.Newlines

namespace PuzzlePrep

structure Explanation where
  head : List Char
  steps : List (List Char)
  foot : List Char

namespace Explanation

def properSteps (e : Explanation) : List (List Char) :=
  (e.steps.map Text.trim).filter (!·.isEmpty)

def endPart (cs : List Char) : List (List Char) := if cs.isEmpty then [] else [Text.trim cs]

def reasoning (e : Explanation) : List Char :=
  let steps := e.properSteps
  let middle := if steps.isEmpty then [] else [Text.join [' '] steps]
  Text.trim (Text.join [' '] (endPart e.head ++ middle ++ endPart e.foot))

end Explanation

def referenceResponse (e : Explanation) (answer : List Char) : List Char :=
  Tag.think.text ++ e.reasoning ++ Tag.endThink.text ++
    Tag.answer.text ++ Text.normalizeNewlines (Text.trim answer) ++ Tag.endAnswer.text

end PuzzlePrep

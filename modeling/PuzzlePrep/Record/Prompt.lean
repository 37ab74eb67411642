import PuzzlePrep.Answer.Tag
import PuzzlePrep.Text.Blank

namespace PuzzlePrep

def assistantMarker : List Char :=
  ['<', '|', 'i', 'm', '_', 's', 't', 'a', 'r', 't', '|', '>',
    'a', 's', 's', 'i', 's', 't', 'a', 'n', 't']

def beforeAssistant (cs : List Char) : List Char :=
  match Text.cutAt? assistantMarker cs with
  | some (before, _) => before
  | none => cs

/-- The prompt up to the first assistant turn, without tags and trimmed. The answer tags are erased
after the thinking tags, each kind in one pass. -/
def cleanPrompt (cs : List Char) : List Char :=
  let spoken := beforeAssistant cs
  let withoutThink := Text.erase [Tag.think.text, Tag.endThink.text] spoken
  Text.trim (Text.erase [Tag.answer.text, Tag.endAnswer.text] withoutThink)

end PuzzlePrep

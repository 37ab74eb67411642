import PuzzlePrep.Number.Word
import PuzzlePrep.Settings.Decode
import PuzzlePrep.Toml.Printer

namespace PuzzlePrep

namespace Setting

def ofPath (p : Path) : Setting := .text p.text

def ofTexts (texts : List String) : Setting := .list (texts.map .text)

def ofOption (value : Option Setting) : Setting := value.getD .absent

end Setting

namespace Settings

open Setting in
def members (s : Settings) : List (String × Setting) :=
  [("raw_dir", ofPath s.rawDir),
   ("processed_dir", ofPath s.processedDir),
   ("partitions", ofTexts s.partitions),
   ("fetch", .table
     [("base_url", .text s.fetch.baseUrl), ("timeout_secs", .unsigned s.fetch.timeoutSecs)]),
   ("merge", .table [("sources", ofTexts s.merge.sources), ("output", .text s.merge.output)]),
   ("preprocess", .table
     [("routine", .text s.preprocess.routine.name),
      ("interpreter", ofPath s.preprocess.interpreter),
      ("venv_path", ofOption (s.preprocess.venv.map ofPath)),
      ("script", ofPath s.preprocess.script),
      ("preview", .unsigned s.preprocess.preview),
      ("timeout_secs", .unsigned s.preprocess.timeoutSecs)]),
   ("train", .table
     [("interpreter", ofPath s.train.interpreter),
      ("module", .text s.train.module),
      ("reward_function", ofPath s.train.rewardFunction),
      ("partition", ofOption (s.train.partition.map .text)),
      ("overrides", ofTexts s.train.overrides)])]

def documentLimit : Nat := Number.signedBound - 1

def document? (s : Settings) : Option String :=
  if [s.fetch.timeoutSecs, s.preprocess.preview, s.preprocess.timeoutSecs].all (· ≤ documentLimit)
  then some (Toml.document s.members) else none

end Settings

end PuzzlePrep

import PuzzlePrep.Split
import PuzzlePrep.Partition
import PuzzlePrep.Files.Path

namespace PuzzlePrep

structure Layout where
  root : Path
  deriving DecidableEq

namespace Layout

def directory (l : Layout) (p : Partition) : Path := l.root / p.name

def file (l : Layout) (p : Partition) (s : Split) : Path := l.directory p / s.fileName

end Layout

end PuzzlePrep

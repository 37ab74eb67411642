import PuzzlePrep.Fetch.Remote
import PuzzlePrep.Files.Atomic

namespace PuzzlePrep

inductive FetchStatus
  | alreadyPresent
  | downloaded (bytes : Option Nat)
  | failed (reason : Failure)

structure FetchRecord where
  partition : Partition
  split : Split
  path : Path
  status : FetchStatus

structure Fetcher where
  baseUrl : String
  layout : Layout

namespace FetchStatus

def isDownloaded : FetchStatus → Bool
  | .downloaded _ => true
  | _ => false

def isPresent : FetchStatus → Bool
  | .alreadyPresent => true
  | _ => false

def isFailed : FetchStatus → Bool
  | .failed _ => true
  | _ => false

end FetchStatus

def userAgent : String := "logicrl/0.3.0"

namespace Fetcher

def base (f : Fetcher) : String :=
  String.ofList (f.baseUrl.toList.reverse.dropWhile (· == '/')).reverse

def url (f : Fetcher) (p : Partition) (s : Split) : String :=
  f.base ++ "/" ++ p.name ++ "/" ++ s.fileName

def download (f : Fetcher) (remote : Remote) (p : Partition) (s : Split) : Stage (Option Nat) := do
  let content ← Stage.request remote (f.url p s)
  Stage.onTree (Disk.writeAtomically (f.layout.file p s) (.ok content))
  return content.size?

def fetchOne (f : Fetcher) (remote : Remote) (p : Partition) (s : Split) :
    StateM World FetchRecord := do
  let path := f.layout.file p s
  if (← get).tree.has path then return ⟨p, s, path, .alreadyPresent⟩
  match ← (f.download remote p s).run with
  | .ok bytes => return ⟨p, s, path, .downloaded bytes⟩
  | .error reason => return ⟨p, s, path, .failed reason⟩

def fetchAll (f : Fetcher) (remote : Remote) (partitions : List Partition) :
    StateM World (List FetchRecord) :=
  (partitions.flatMap fun p => Split.staged.map (p, ·)).mapM fun (p, s) => f.fetchOne remote p s

end Fetcher

end PuzzlePrep

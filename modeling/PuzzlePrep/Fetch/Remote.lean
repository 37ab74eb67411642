import PuzzlePrep.Fetch.Url
import PuzzlePrep.Stage.World

namespace PuzzlePrep

inductive Reply
  | refused
  | body (status : Nat) (content : Content) (complete : Bool)

/-- A server: the reply to the request of this number for this URL. It may change its mind between
two requests. -/
abbrev Remote := Nat → String → Reply

namespace Reply

def isAnswer : Reply → Bool
  | .refused => false
  | .body .. => true

def content (url : String) : Reply → Except Failure Content
  | .refused => .error (.http (.notSent url))
  | .body status content complete =>
    if 400 ≤ status then .error (.http (.status status url))
    else if complete then .ok content
    else .error (.http (.cutShort url))

end Reply

namespace Stage

def request (remote : Remote) (text : String) : Stage Content := do
  match Url.parse? text with
  | none => throw (.http (.unusableUrl none))
  | some (.other url) => throw (.http (.unusableUrl (some url)))
  | some (.web url) =>
    let w ← get
    let reply := remote w.requests.length url
    let request : Request := ⟨url, reply.isAnswer⟩
    set { w with requests := w.requests ++ [request] }
    match reply.content url with
    | .ok content => return content
    | .error f => throw f

end Stage

end PuzzlePrep

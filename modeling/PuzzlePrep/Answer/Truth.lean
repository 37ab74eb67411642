import PuzzlePrep.Answer.Role
import PuzzlePrep.Text.Newlines

namespace PuzzlePrep

def nameWord? : Bool → List Char → Option (List Char × List Char)
  | _, [] => none
  | behind, c :: cs =>
    match if behind then none else Text.spanLetters? (c :: cs) with
    | some (letters, rest) =>
      if Text.wordAhead rest then nameWord? (Text.isWord c) cs else some (letters, rest)
    | none => nameWord? (Text.isWord c) cs

def roleWord? : Bool → List Char → Option Role
  | _, [] => none
  | behind, c :: cs =>
    match if behind then none else Role.wordAtStart? (c :: cs) with
    | some r => some r
    | none => roleWord? (Text.isWord c) cs

def identityOf? (line : List Char) : Option (String × Role) := do
  let (name, rest) ← nameWord? false line
  let role ← roleWord? true rest
  return (String.ofList name, role)

/-- Notes an identity: a new name comes last, a known one keeps its place and takes the role. -/
def Identities.note (name : String) (role : Role) : Identities → Identities
  | [] => [(name, role)]
  | (n, r) :: rest => if n = name then (n, role) :: rest else (n, r) :: note name role rest

def trueIdentities (text : List Char) : Identities :=
  ((Text.lines (Text.normalizeNewlines text)).filterMap (identityOf? <| Text.trim ·)).foldl
    (fun known (name, role) => known.note name role) []

end PuzzlePrep

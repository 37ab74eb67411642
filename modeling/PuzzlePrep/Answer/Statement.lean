import PuzzlePrep.Answer.Format

namespace PuzzlePrep

def afterName? : List Char → Bool → List Char → Option (Bool × List Char)
  | [], behind, cs => some (behind, cs)
  | _ :: _, _, [] => none
  | n :: ns, _, c :: cs => if Text.sameLetter n c then afterName? ns (Text.isWord c) cs else none

def statementAtStart? (name : List Char) (behind : Bool) (cs : List Char) : Option Role := do
  let (behind', rest) ← if Text.boundary behind cs then afterName? name behind cs else none
  let rest ← if Text.boundary behind' rest then afterIsA? rest else none
  Role.wordAtStart? rest

def statedRole? (name : List Char) : Bool → List Char → Option Role
  | _, [] => none
  | behind, c :: cs =>
    match statementAtStart? name behind (c :: cs) with
    | some r => some r
    | none => statedRole? name (Text.isWord c) cs

def statedIdentities? (answer : List Char) (names : List String) : Option Identities :=
  names.mapM fun name => (statedRole? name.toList false answer).map (name, ·)

end PuzzlePrep

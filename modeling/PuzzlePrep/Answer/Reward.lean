import PuzzlePrep.Answer.Block
import PuzzlePrep.Answer.Statement
import PuzzlePrep.Answer.Truth
import PuzzlePrep.Number.Binary

namespace PuzzlePrep

/-- Points, counted in halves. -/
structure Points where
  halves : Int
  deriving DecidableEq, Repr, Inhabited

namespace Points

instance : Add Points := ⟨fun a b => ⟨a.halves + b.halves⟩⟩

instance (n : Nat) : OfNat Points n := ⟨⟨2 * n⟩⟩

instance : Neg Points := ⟨fun a => ⟨-a.halves⟩⟩

def lessHalf (p : Points) : Points := ⟨p.halves - 1⟩

def toBinary (p : Points) : Number.Binary :=
  Number.double.nearest (p.halves < 0) p.halves.natAbs 2

def text (p : Points) : String :=
  (if p.halves < 0 then "-" else "+") ++ toString (p.halves.natAbs / 2) ++
    (if p.halves % 2 = 0 then ".0" else ".5")

end Points

structure Reward where
  format : Points
  answer : Points
  total : Points
  deriving DecidableEq, Repr

namespace Reward

def unreadableTruth : Points := -3

def agreements (expected stated : Identities) : Nat :=
  (expected.zip stated).countP fun (e, s) => e.2 == s.2

def answerPoints (expected stated : Identities) : Points :=
  let right := agreements expected stated
  if right = expected.length then 2 else if 0 < right then -1 else Points.lessHalf (-1)

def answerIn? (response : List Char) : Option (List Char) :=
  (lastAnswer? response).filter (!·.isEmpty)

def statedIn? (expected : Identities) (response : List Char) : Option Identities :=
  if wellTagged response then
    (answerIn? response).bind (statedIdentities? · (expected.map Prod.fst))
  else none

def of (response truth : List Char) : Reward :=
  let expected := trueIdentities truth
  if expected.isEmpty then ⟨0, 0, unreadableTruth⟩
  else
    let format : Points := if wellTagged response then 1 else -1
    let answer := match statedIn? expected response with
      | some stated => answerPoints expected stated
      | none => -2
    ⟨format, answer, format + answer⟩

end Reward

end PuzzlePrep

import PuzzlePrep.Json.Value
import PuzzlePrep.Split

namespace PuzzlePrep

structure Message where
  role : String
  content : String

namespace Message

def toJson (m : Message) : Json := .obj [("content", .str m.content), ("role", .str m.role)]

end Message

structure GroundTruth where
  solution : String
  statements : String

structure Record where
  dataSource : String
  prompt : List Message
  response : Message
  names : Json
  solution : Json
  solutionText : String
  ability : String
  truth : GroundTruth
  split : Split
  index : Int

namespace Record

/-- How many lines the answer has: one a name, or three where no names are listed. -/
def expectedLines (r : Record) : Nat :=
  match r.names with
  | .arr (name :: more) => (name :: more).length
  | _ => 3

def toMembers (r : Record) : Json.Members :=
  [("ability", .str r.ability),
   ("data_source", .str r.dataSource),
   ("extra_info", .obj [("index", Json.whole r.index), ("split", .str r.split.name)]),
   ("names", r.names),
   ("prompt", .arr (r.prompt.map Message.toJson)),
   ("response", r.response.toJson),
   ("reward_model", .obj
     [("ground_truth", .obj
        [("solution_text_format", .str r.truth.solution), ("statements", .str r.truth.statements)]),
      ("style", .str "rule")]),
   ("solution", r.solution),
   ("solution_text", .str r.solutionText)]

def toJson (r : Record) : Json := .obj r.toMembers

end Record

end PuzzlePrep

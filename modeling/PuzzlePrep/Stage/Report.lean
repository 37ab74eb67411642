import PuzzlePrep.Answer.Reward
import PuzzlePrep.Json.Value
import PuzzlePrep.Stage.Pipeline

namespace PuzzlePrep

namespace Json

def ofNat (n : Nat) : Json := whole n

def ofPath (p : Path) : Json := .str p.text

end Json

namespace Summary

def toJson (s : Summary) : Json :=
  .obj [("input", Json.ofPath s.input), ("output", Json.ofPath s.output),
    ("split", .str s.split.name), ("rows", Json.ofNat s.rows),
    ("checked", Json.ofNat s.preview.checked), ("issues", Json.ofNat s.preview.issues),
    ("structure_failures", Json.ofNat s.preview.structureFailures)]

end Summary

namespace FetchRecord

def statusJson : FetchStatus → Json
  | .alreadyPresent => .obj [("status", .str "already_present")]
  | .downloaded bytes =>
    .obj [("status", .str "downloaded"), ("bytes", (bytes.map Json.ofNat).getD .null)]
  | .failed reason => .obj [("status", .str "failed"), ("reason", .str reason.message)]

def toJson (r : FetchRecord) : Json :=
  .obj [("partition", .str r.partition.name), ("split", .str r.split.name),
    ("path", Json.ofPath r.path), ("status", statusJson r.status)]

def reportJson (records : List FetchRecord) : Json :=
  .obj [("records", .arr (records.map toJson))]

end FetchRecord

namespace MergeOutcome

def toJson : MergeOutcome → Json
  | .noData => .obj [("status", .str "no_data")]
  | .written path rows sources =>
    .obj [("status", .str "written"), ("path", Json.ofPath path), ("rows", Json.ofNat rows),
      ("sources", .arr (sources.map fun s =>
        .obj [("partition", .str s.partition.name), ("rows", Json.ofNat s.rows)]))]

end MergeOutcome

namespace MergeReport

def toJson (r : MergeReport) : Json :=
  .obj [("output", .str r.output.name),
    ("splits", .arr (r.splits.map fun (s, outcome) =>
      .obj [("split", .str s.name), ("outcome", outcome.toJson)]))]

end MergeReport

namespace PreprocessRecord

def outcomeJson : PreprocessOutcome → Json
  | .processed input output =>
    .obj [("status", .str "processed"), ("input", Json.ofPath input),
      ("output", Json.ofPath output)]
  | .skipped input => .obj [("status", .str "skipped"), ("input", Json.ofPath input)]

def toJson (r : PreprocessRecord) : Json :=
  .obj [("partition", .str r.partition.name), ("split", .str r.split.name),
    ("outcome", outcomeJson r.outcome)]

def reportJson (routine : String) (records : List PreprocessRecord) : Json :=
  .obj [("routine", .str routine), ("records", .arr (records.map toJson))]

end PreprocessRecord

namespace InspectReport

def statusJson (s : FileStatus) : Json :=
  let (present, rows, error) := match s.state with
    | .missing => (false, Json.null, Json.null)
    | .readable rows => (true, Json.ofNat rows, .null)
    | .unreadable reason => (true, .null, .str reason.message)
  .obj [("path", Json.ofPath s.path), ("exists", .bool present), ("rows", rows),
    ("error", error)]

def entryJson (e : SplitStatus) : Json :=
  .obj [("partition", .str e.partition.name), ("split", .str e.split.name),
    ("raw", statusJson e.raw), ("processed", statusJson e.processed)]

def toJson (r : InspectReport) : Json :=
  .obj [("raw_root", Json.ofPath r.rawRoot), ("processed_root", Json.ofPath r.processedRoot),
    ("entries", .arr (r.entries.map entryJson))]

end InspectReport

namespace PipelineReport

def toJson (routine : String) (r : PipelineReport) : Json :=
  .obj [("fetch", FetchRecord.reportJson r.fetch), ("merge", r.merge.toJson),
    ("preprocess", PreprocessRecord.reportJson routine r.preprocess)]

end PipelineReport

namespace Reward

def toJson (r : Reward) : Json :=
  let points (p : Points) : Json := .num (.float p.toBinary)
  .obj [("format_score", points r.format), ("answer_score", points r.answer),
    ("total", points r.total)]

end Reward

end PuzzlePrep

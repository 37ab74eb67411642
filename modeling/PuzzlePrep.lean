import PuzzlePrep.Answer.Block
import PuzzlePrep.Answer.Format
import PuzzlePrep.Answer.Reward
import PuzzlePrep.Answer.Role
import PuzzlePrep.Answer.Statement
import PuzzlePrep.Answer.Tag
import PuzzlePrep.Answer.Truth
import PuzzlePrep.Cli.Arguments
import PuzzlePrep.Cli.Reach
import PuzzlePrep.Cli.Run
import PuzzlePrep.Failure
import PuzzlePrep.Fetch.Remote
import PuzzlePrep.Fetch.Url
import PuzzlePrep.Files.Atomic
import PuzzlePrep.Files.Change
import PuzzlePrep.Files.Disk
import PuzzlePrep.Files.Fault
import PuzzlePrep.Files.Path
import PuzzlePrep.Files.Stored
import PuzzlePrep.Files.Tree
import PuzzlePrep.Files.Walk
import PuzzlePrep.Json.Parser
import PuzzlePrep.Json.Printer
import PuzzlePrep.Json.Value
import PuzzlePrep.Layout
import PuzzlePrep.Main
import PuzzlePrep.Number.Binary
import PuzzlePrep.Number.Scaled
import PuzzlePrep.Number.Shortest
import PuzzlePrep.Number.Word
import PuzzlePrep.Partition
import PuzzlePrep.Program.Interpreter
import PuzzlePrep.Program.Invocation
import PuzzlePrep.Program.Signal
import PuzzlePrep.Proofs.Answer.Assignment
import PuzzlePrep.Proofs.Answer.Block
import PuzzlePrep.Proofs.Answer.Form
import PuzzlePrep.Proofs.Answer.FourWords
import PuzzlePrep.Proofs.Answer.Influence
import PuzzlePrep.Proofs.Answer.Line
import PuzzlePrep.Proofs.Answer.Numbered
import PuzzlePrep.Proofs.Answer.Phrase
import PuzzlePrep.Proofs.Answer.RewardTable
import PuzzlePrep.Proofs.Answer.Scan
import PuzzlePrep.Proofs.Answer.Scanned
import PuzzlePrep.Proofs.Answer.Sentences
import PuzzlePrep.Proofs.Answer.Statement
import PuzzlePrep.Proofs.Answer.Surroundings
import PuzzlePrep.Proofs.Answer.Tagged
import PuzzlePrep.Proofs.Answer.Telling
import PuzzlePrep.Proofs.Answer.Truth
import PuzzlePrep.Proofs.Answer.Words
import PuzzlePrep.Proofs.Answer.Written
import PuzzlePrep.Proofs.Cli.Pipeline
import PuzzlePrep.Proofs.Cli.Settings
import PuzzlePrep.Proofs.Distinct
import PuzzlePrep.Proofs.Fetch.Address
import PuzzlePrep.Proofs.Fetch.Escape
import PuzzlePrep.Proofs.Fetch.Url
import PuzzlePrep.Proofs.Files.Alike
import PuzzlePrep.Proofs.Files.Apart
import PuzzlePrep.Proofs.Files.Atomic
import PuzzlePrep.Proofs.Files.Attempt
import PuzzlePrep.Proofs.Files.Components
import PuzzlePrep.Proofs.Files.Confined
import PuzzlePrep.Proofs.Files.Directories
import PuzzlePrep.Proofs.Files.Disk
import PuzzlePrep.Proofs.Files.Layout
import PuzzlePrep.Proofs.Files.Path
import PuzzlePrep.Proofs.Files.Place
import PuzzlePrep.Proofs.Files.Spot
import PuzzlePrep.Proofs.Files.Walk
import PuzzlePrep.Proofs.Files.Writer
import PuzzlePrep.Proofs.Json.Members
import PuzzlePrep.Proofs.Outcome
import PuzzlePrep.Proofs.Record.Agreement
import PuzzlePrep.Proofs.Record.Check
import PuzzlePrep.Proofs.Record.File
import PuzzlePrep.Proofs.Record.Null
import PuzzlePrep.Proofs.Record.Preview
import PuzzlePrep.Proofs.Record.Prompt
import PuzzlePrep.Proofs.Record.Reference
import PuzzlePrep.Proofs.Record.Row
import PuzzlePrep.Proofs.Record.Stored
import PuzzlePrep.Proofs.Settings.Decode
import PuzzlePrep.Proofs.Settings.Environment
import PuzzlePrep.Proofs.Settings.Flaws
import PuzzlePrep.Proofs.Settings.Layer
import PuzzlePrep.Proofs.Settings.Load
import PuzzlePrep.Proofs.Stage.Convert
import PuzzlePrep.Proofs.Stage.EachRow
import PuzzlePrep.Proofs.Stage.Extent
import PuzzlePrep.Proofs.Stage.Fetch
import PuzzlePrep.Proofs.Stage.History
import PuzzlePrep.Proofs.Stage.Jobs
import PuzzlePrep.Proofs.Stage.Merge
import PuzzlePrep.Proofs.Stage.Pipeline
import PuzzlePrep.Proofs.Stage.Preprocess
import PuzzlePrep.Proofs.Stage.Remerge
import PuzzlePrep.Proofs.Stage.Tasks
import PuzzlePrep.Proofs.Stage.Train
import PuzzlePrep.Proofs.Stage.World
import PuzzlePrep.Proofs.Table.Columns
import PuzzlePrep.Proofs.Table.Concat
import PuzzlePrep.Proofs.Table.Exact
import PuzzlePrep.Proofs.Table.File
import PuzzlePrep.Proofs.Table.Loaded
import PuzzlePrep.Proofs.Table.Restored
import PuzzlePrep.Proofs.Table.Rows
import PuzzlePrep.Proofs.Table.Stages
import PuzzlePrep.Proofs.Table.Stored
import PuzzlePrep.Proofs.Table.Union
import PuzzlePrep.Proofs.Table.United
import PuzzlePrep.Proofs.Text.Blank
import PuzzlePrep.Proofs.Text.Border
import PuzzlePrep.Proofs.Text.Erase
import PuzzlePrep.Proofs.Text.Letter
import PuzzlePrep.Proofs.Text.Lines
import PuzzlePrep.Proofs.Text.Newlines
import PuzzlePrep.Proofs.Text.Occurrence
import PuzzlePrep.Proofs.Toml.Parser
import PuzzlePrep.Record.Basic
import PuzzlePrep.Record.OfRow
import PuzzlePrep.Record.Prompt
import PuzzlePrep.Record.Reference
import PuzzlePrep.Settings.Basic
import PuzzlePrep.Settings.Decode
import PuzzlePrep.Settings.Dotenv
import PuzzlePrep.Settings.Encode
import PuzzlePrep.Settings.Environment
import PuzzlePrep.Settings.FromJson
import PuzzlePrep.Settings.Load
import PuzzlePrep.Settings.Value
import PuzzlePrep.Shell.Arithmetic
import PuzzlePrep.Shell.Builtin
import PuzzlePrep.Shell.Escape
import PuzzlePrep.Shell.Executable
import PuzzlePrep.Shell.Expansion
import PuzzlePrep.Shell.Format
import PuzzlePrep.Shell.Parser
import PuzzlePrep.Shell.Pattern
import PuzzlePrep.Shell.Run
import PuzzlePrep.Shell.Script
import PuzzlePrep.Shell.SignalName
import PuzzlePrep.Shell.State
import PuzzlePrep.Shell.Switch
import PuzzlePrep.Shell.System
import PuzzlePrep.Shell.Token
import PuzzlePrep.Shell.Tools
import PuzzlePrep.Split
import PuzzlePrep.Stage.Convert
import PuzzlePrep.Stage.Fetch
import PuzzlePrep.Stage.Inspect
import PuzzlePrep.Stage.Merge
import PuzzlePrep.Stage.Pipeline
import PuzzlePrep.Stage.Preprocess
import PuzzlePrep.Stage.Report
import PuzzlePrep.Stage.Train
import PuzzlePrep.Stage.World
import PuzzlePrep.Table.Basic
import PuzzlePrep.Table.Column
import PuzzlePrep.Table.Concat
import PuzzlePrep.Table.Description
import PuzzlePrep.Table.File
import PuzzlePrep.Table.Restored
import PuzzlePrep.Table.Rows
import PuzzlePrep.Text.Alphanumeric
import PuzzlePrep.Text.Blank
import PuzzlePrep.Text.Cut
import PuzzlePrep.Text.Fold
import PuzzlePrep.Text.Lossy
import PuzzlePrep.Text.Newlines
import PuzzlePrep.Text.Quoted
import PuzzlePrep.Text.Word
import PuzzlePrep.Toml.Parser
import PuzzlePrep.Toml.Printer
import PuzzlePrep.Toml.Value

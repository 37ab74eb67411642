import PuzzlePrep.Shell.Run

/-!
A shell and its small tools: one value of `Programs`, which the command line hands over where scripts
are really to be run. It is no part of the pipeline. The stages take any programs, and no theorem is
about these.
-/

namespace PuzzlePrep.Shell

def State.starting (t : Tree) (c : Invocation) (workdir : Location) : State where
  tree := { t with workdir }
  name := c.program
  arguments := []
  bindings := c.environment
  exported := c.environment.map (·.1)
  limit := c.limit

def State.isLate (s : State) : Bool := s.limit.any (· ≤ max s.clock s.lasting)

def State.finish (t : Tree) (status : ExitStatus) (s : State) : Outcome :=
  let after := { s.tree with workdir := t.workdir }
  if s.isLate then .tooSlow after else .finished status s.output s.complaints after

def unfit (s : String) : Bool := s.toList.contains '\x00'

def programs : Programs := fun t c =>
  if (c.program :: c.arguments).any unfit then
    .notStarted (.other "nul byte found in provided data")
  else
    match t.find c.directory with
    | .error f => .notStarted f
    | .ok (_, .file ..) => .notStarted .notDirectory
    | .ok (workdir, .directory) =>
      let s := State.starting t c workdir
      match locate s.tree s.searched c.program with
      | .error f => .notStarted f
      | .ok e =>
        match (start deepest e c.program c.arguments).run.run s with
        | (.ok (.error f), _) => .notStarted f
        | (.ok (.ok status), s) => s.finish t (.code (status % 256))
        | (.error (.exited status), s) => s.finish t (.code (status % 256))
        | (.error (.killed signal), s) => s.finish t (.signal signal)
        | (.error .tooSlow, s) => .tooSlow { s.tree with workdir := t.workdir }
        | (.error _, s) => s.finish t (.code 0)

end PuzzlePrep.Shell

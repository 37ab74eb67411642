import PuzzlePrep.Cli.Run
import PuzzlePrep.Proofs.Settings.Load

namespace PuzzlePrep.Cli

open Setting (Reader)
open Setting.Reader (leaves mem_leaves plainSlots sections preprocessSlots taken? given_iff path text
  natural sequence)

def Options.flag? (o : Options) (path : List String) : Option Setting :=
  let given : Option Path :=
    match path with
    | ["raw_dir"] => o.rawDir
    | ["processed_dir"] => o.processedDir
    | ["preprocess", "script"] => o.script
    | _ => none
  given.map fun p => .text p.text

def Options.under (o : Options) (s : Settings) : Settings :=
  { s with
    rawDir := o.rawDir.getD s.rawDir
    processedDir := o.processedDir.getD s.processedDir
    preprocess := { s.preprocess with script := o.script.getD s.preprocess.script } }

theorem Options.given_path (p : Option Path) (place : List String) (before : Path) :
    Reader.Given Reader.path place (p.map fun p => .text p.text) (p.getD before) before := by
  cases p <;> rfl

theorem Options.given_under (o : Options) (s : Settings) :
    ∀ l ∈ leaves, l.Given (o.flag? l.path) (o.under s) s := by
  intro l isLeaf
  rcases mem_leaves.mp isLeaf with ⟨a, there, rfl⟩ | ⟨c, member, a, there, rfl⟩
  · simp only [plainSlots, List.mem_cons, List.not_mem_nil, or_false] at there
    rcases there with rfl | rfl | rfl
    · exact given_path o.rawDir _ s.rawDir
    · exact given_path o.processedDir _ s.processedDir
    · rfl
  · simp only [sections, List.mem_cons, List.not_mem_nil, or_false] at member
    rcases member with rfl | rfl | rfl | rfl
    · rfl
    · rfl
    · simp only [preprocessSlots, List.mem_cons, List.not_mem_nil, or_false] at there
      rcases there with rfl | rfl | rfl | rfl | rfl | rfl
      · rfl
      · rfl
      · rfl
      · exact given_path o.script _ s.preprocess.script
      · rfl
      · rfl
    · rfl

def Action.on {α : Type} (a : Action α) (w : World) : Except Complaint α × World := a.run.run w

theorem Action.on_bind {α β : Type} (a : Action α) (k : α → Action β) (w : World) :
    (a >>= k).on w =
      match a.on w with
      | (.ok b, w') => (k b).on w'
      | (.error complaint, w') => (.error complaint, w') := by
  show ((ExceptT.bindCont k) (a.on w).1).run (a.on w).2 = _
  rcases a.on w with ⟨_ | _, _⟩ <;> rfl

theorem Action.on_get_bind {α : Type} (f : World → Action α) (w : World) :
    ((get : Action World) >>= f).on w = (f w).on w := rfl

namespace Context

variable {c : Context} {w : World} {s : Settings} {user nearby asked : Setting}

theorem settings_on (loaded : Settings.load w.tree c.surroundings.environment (some c.workspace)
    c.options.config = .ok s) : c.settings.on w = (.ok (c.options.under s), w) := by
  unfold Context.settings
  rw [Action.on_get_bind, loaded]
  rfl

def usersFile : String :=
  "partitions = ['3ppl', '4ppl']\n[fetch]\nbase_url = 'http://user'\ntimeout_secs = 10"

def workspacesFile : String :=
  "raw_dir = 'near'\n[fetch]\ntimeout_secs = 20\n[merge]\noutput = 'near'"

def askedFile : String :=
  "partitions = ['5ppl']\n[train]\nmodule = 'asked'\noverrides = ['x']"

def threeFiles : World where
  tree := {
    workdir := ["work"]
    entries := [
      (["home"], .directory),
      (["home", ".config"], .directory),
      (["home", ".config", "logicrl"], .directory),
      (["home", ".config", "logicrl", "config.toml"], .file (.ofText usersFile) false),
      (["work"], .directory),
      (["work", ".logicrl"], .directory),
      (["work", ".logicrl", "config.toml"], .file (.ofText workspacesFile) false),
      (["work", "asked.toml"], .file (.ofText askedFile) false)] }

def amongThreeFiles : Context where
  surroundings := {
    programs := fun t _ => .finished (.code 0) .empty .empty t
    remote := fun _ _ => .refused
    environment := [("HOME", "/home"), ("LOGICRL_FETCH__TIMEOUT_SECS", "30"),
      ("LOGICRL_TRAIN__OVERRIDES", "[y, z]")]
    input := "" }
  options := ⟨none, some ⟨"asked.toml"⟩, some ⟨"flag"⟩, none, none⟩
  workspace := ⟨"/work"⟩

def saidBy (r : Except SettingFault Setting) : Setting := r.toOption.getD .absent

theorem ok_saidBy {r : Except SettingFault Setting} (found : r.toOption.any Setting.wellTyped = true) :
    r = .ok (saidBy r) ∧ (saidBy r).wellTyped = true := by
  cases r with
  | ok j => exact ⟨rfl, found⟩
  | error fault => cases found

def usersLayer : Setting :=
  saidBy (Settings.layerIfThere threeFiles.tree
    (Settings.userFile? amongThreeFiles.surroundings.environment))

def nearbyLayer : Setting :=
  saidBy (Settings.layerIfThere threeFiles.tree
    (some (Settings.workspaceFile amongThreeFiles.workspace)))

def askedLayer : Setting :=
  saidBy (Settings.layerAsked threeFiles.tree amongThreeFiles.options.config)

def saidAt (place : List String) : Option Setting :=
  (amongThreeFiles.options.flag? place).or
    ([Setting.ofEnvironment amongThreeFiles.surroundings.environment, askedLayer, nearbyLayer,
      usersLayer].findSome? (·.at? place))

end Context

end PuzzlePrep.Cli

import PuzzlePrep.Proofs.Files.Alike
import PuzzlePrep.Proofs.Stage.World
import PuzzlePrep.Stage.Fetch

namespace PuzzlePrep

open PuzzlePrep.Path PuzzlePrep.Tree

def World.asked (w : World) (remote : Remote) (url : String) : World :=
  { w with requests := w.requests ++ [⟨url, (remote w.requests.length url).isAnswer⟩] }

theorem Stage.request_on (remote : Remote) (text : String) (w : World) :
    (request remote text).on w =
      match Url.parse? text with
      | none => (.error (.http (.unusableUrl none)), w)
      | some (.other url) => (.error (.http (.unusableUrl (some url))), w)
      | some (.web url) =>
        ((remote w.requests.length url).content url, w.asked remote url) := by
  rw [request]
  rcases Url.parse? text with _ | url | url
  · rfl
  · dsimp only
    rw [on_bind, on_get]
    dsimp only
    rcases (remote w.requests.length url).content url with f | content <;> rfl
  · rfl

namespace Fetcher

variable {f : Fetcher} {remote : Remote} {p : Partition} {s : Split} {w w' : World}

inductive Visit (f : Fetcher) (remote : Remote) (p : Partition) (s : Split) (w : World) :
    FetchStatus → World → Prop
  | present (has : w.tree.has (f.layout.file p s) = true) : Visit f remote p s w .alreadyPresent w
  | unasked (absent : w.tree.has (f.layout.file p s) = false) (reason : Failure) :
    Visit f remote p s w (.failed reason) w
  | unanswered {url : String} {reason : Failure}
    (absent : w.tree.has (f.layout.file p s) = false)
    (parsed : Url.parse? (f.url p s) = some (.web url)) :
    Visit f remote p s w (.failed reason) (w.asked remote url)
  | unwritten {url : String} {content : Content} {reason : Failure} {tree : Tree}
    (absent : w.tree.has (f.layout.file p s) = false)
    (parsed : Url.parse? (f.url p s) = some (.web url))
    (reply : (remote w.requests.length url).content url = .ok content)
    (ran : (Disk.writeAtomically (f.layout.file p s) (.ok content)).on w.tree =
      (.error reason, tree)) :
    Visit f remote p s w (.failed reason) { w.asked remote url with tree }
  | written {url : String} {content : Content} {tree : Tree}
    (absent : w.tree.has (f.layout.file p s) = false)
    (parsed : Url.parse? (f.url p s) = some (.web url))
    (reply : (remote w.requests.length url).content url = .ok content)
    (ran : (Disk.writeAtomically (f.layout.file p s) (.ok content)).on w.tree = (.ok (), tree)) :
    Visit f remote p s w (.downloaded content.size?) { w.asked remote url with tree }

theorem fetchOne_run (f : Fetcher) (remote : Remote) (p : Partition) (s : Split) (w : World) :
    (f.fetchOne remote p s).run w =
      if w.tree.has (f.layout.file p s) then (⟨p, s, f.layout.file p s, .alreadyPresent⟩, w)
      else match (f.download remote p s).on w with
        | (.ok bytes, after) => (⟨p, s, f.layout.file p s, .downloaded bytes⟩, after)
        | (.error reason, after) => (⟨p, s, f.layout.file p s, .failed reason⟩, after) := by
  cases has : w.tree.has (f.layout.file p s) with
  | true =>
    simp only [fetchOne, StateT.run_bind, StateT.run_get, pure_bind, has]
    rfl
  | false =>
    rw [fetchOne]
    generalize f.download remote p s = loading
    simp only [StateT.run_bind, StateT.run_get, pure_bind, has, Bool.false_eq_true, if_false]
    have loaded : loading.run.run w = loading.on w := rfl
    rw [loaded]
    rcases loading.on w with ⟨_ | _, _⟩ <;> rfl

theorem visit_fetchOne {r : FetchRecord} (ran : (f.fetchOne remote p s).run w = (r, w')) :
    Visit f remote p s w r.status w' ∧
      r.partition = p ∧ r.split = s ∧ r.path = f.layout.file p s := by
  rw [fetchOne_run] at ran
  cases has : w.tree.has (f.layout.file p s) with
  | true =>
    rw [has] at ran
    cases ran
    exact ⟨.present has, rfl, rfl, rfl⟩
  | false =>
    rw [has, if_neg Bool.false_ne_true, download, Stage.on_bind, Stage.request_on] at ran
    rcases parsed : Url.parse? (f.url p s) with _ | url | url
    · rw [parsed] at ran
      cases ran
      exact ⟨.unasked has _, rfl, rfl, rfl⟩
    · rw [parsed] at ran
      dsimp only at ran
      rcases reply : (remote w.requests.length url).content url with g | content
      · rw [reply] at ran
        cases ran
        exact ⟨.unanswered has parsed, rfl, rfl, rfl⟩
      · rw [reply] at ran
        simp only [Stage.on_bind, Stage.on_onTree] at ran
        rcases wrote : (Disk.writeAtomically (f.layout.file p s) (.ok content)).on w.tree
          with ⟨g | u, tree⟩
        · have wrote' : (Disk.writeAtomically (f.layout.file p s) (.ok content)).on
              (w.asked remote url).tree = _ := wrote
          rw [wrote'] at ran
          cases ran
          exact ⟨.unwritten has parsed reply wrote, rfl, rfl, rfl⟩
        · have wrote' : (Disk.writeAtomically (f.layout.file p s) (.ok content)).on
              (w.asked remote url).tree = _ := wrote
          rw [wrote'] at ran
          cases ran
          exact ⟨.written has parsed reply wrote, rfl, rfl, rfl⟩
    · rw [parsed] at ran
      cases ran
      exact ⟨.unasked has _, rfl, rfl, rfl⟩

theorem Visit.confined {status : FetchStatus} (visit : Visit f remote p s w status w')
    (sound : w.tree.Sound) (settled : w.tree.Settled f.layout) :
    Confined (w.tree.Above f.layout)
      (fun m => w.tree.has (f.layout.file p s) = false ∧
        (m = w.tree.inside f.layout p (s.fileName ++ ".tmp") ∨
          status.isDownloaded = true ∧ m = w.tree.inside f.layout p s.fileName))
      w.tree w'.tree := by
  cases visit with
  | present => exact .refl _ _ w.tree
  | unasked => exact .refl _ _ w.tree
  | unanswered => exact .refl _ _ w.tree
  | @unwritten _ content _ _ absent _ _ ran =>
    have left := Disk.confined_writeAtomically f.layout p s (.ok content) w.tree
    rw [ran] at left
    refine (left.mono (fun _ _ => id) ?_).above sound settled
    rintro m (tmp | ⟨⟨⟩, -⟩)
    exact ⟨absent, Or.inl tmp⟩
  | @written _ content _ absent _ _ ran =>
    have left := Disk.confined_writeAtomically f.layout p s (.ok content) w.tree
    rw [ran] at left
    refine (left.mono (fun _ _ => id) ?_).above sound settled
    rintro m (tmp | ⟨-, file⟩)
    · exact ⟨absent, Or.inl tmp⟩
    · exact ⟨absent, Or.inr ⟨rfl, file⟩⟩

structure FetchStep (f : Fetcher) (remote : Remote) (w : World) (r : FetchRecord) (w' : World) :
    Prop where
  path : r.path = f.layout.file r.partition r.split
  present : r.status.isPresent = true ↔ w.tree.has r.path = true
  untouched : r.status.isPresent = true → w' = w
  asked : w'.requests = w.requests ∨
    ∃ url, Url.parse? (f.url r.partition r.split) = some (.web url) ∧
      w'.requests = w.requests ++ [⟨url, (remote w.requests.length url).isAnswer⟩]
  downloaded : r.status.isDownloaded = true ↔
    w.tree.has r.path = false ∧ w'.tree.has r.path = true
  body : ∀ bytes, r.status = .downloaded bytes → ∃ url content place executable,
    Url.parse? (f.url r.partition r.split) = some (.web url) ∧
    (remote w.requests.length url).content url = .ok content ∧ bytes = content.size? ∧
    w'.tree.find r.path = .ok (place, .file content executable)
  failed : r.status.isFailed = true → w'.tree.has r.path = false
  sibling : ∀ m content executable,
    w'.tree.find r.path.temporary = .ok (m, .file content executable) →
      w'.tree = w.tree ∨ r.status.isFailed = true ∧
        w.tree.find r.path.temporary = .ok (m, .file content executable)
  kept : ∀ p s, w.tree.has (f.layout.file p s) = true →
    w'.tree.find (f.layout.file p s) = w.tree.find (f.layout.file p s)
  confined : Confined (w.tree.Above f.layout)
    (fun m => w.tree.has r.path = false ∧
      (m = w.tree.inside f.layout r.partition (r.split.fileName ++ ".tmp") ∨
        r.status.isDownloaded = true ∧ m = w.tree.inside f.layout r.partition r.split.fileName))
    w.tree w'.tree

theorem Visit.kept {status : FetchStatus} (visit : Visit f remote p s w status w')
    (sound : w.tree.Sound) (settled : w.tree.Settled f.layout) {q : Partition} {s' : Split}
    (has : w.tree.has (f.layout.file q s') = true) :
    w'.tree.find (f.layout.file q s') = w.tree.find (f.layout.file q s') := by
  have left := visit.confined sound settled
  refine find_file_of_keeps left.keeps (left.same ?_ (not_above_inside _ _ _)) has
  rintro ⟨absent, tmp | ⟨-, file⟩⟩
  · exact s.temporary_ne s' (inside_inj.mp tmp).2.symm
  · obtain ⟨rfl, names⟩ := inside_inj.mp file
    obtain rfl := Split.fileName_injective names
    rw [absent] at has
    cases has

theorem Visit.absent_of_failed {status : FetchStatus} (visit : Visit f remote p s w status w')
    (sound : w.tree.Sound) (settled : w.tree.Settled f.layout) (failed : status.isFailed = true) :
    w'.tree.has (f.layout.file p s) = false := by
  have left := visit.confined sound settled
  have absent : w.tree.has (f.layout.file p s) = false := by
    cases visit with
    | present | written => cases failed
    | unasked absent | unanswered absent | unwritten absent => exact absent
  rw [has_file_congr sound settled left.keeps, absent]
  apply left.same _ (not_above_inside _ _ _)
  rintro ⟨-, tmp | ⟨done, -⟩⟩
  · exact s.temporary_ne s (inside_inj.mp tmp).2.symm
  · cases status <;> simp [FetchStatus.isDownloaded, FetchStatus.isFailed] at done failed

theorem Visit.sibling {status : FetchStatus} (visit : Visit f remote p s w status w')
    (sound : w.tree.Sound) (settled : w.tree.Settled f.layout) {m : Location} {content : Content}
    {executable : Bool}
    (found : w'.tree.find (f.layout.file p s).temporary = .ok (m, .file content executable)) :
    w'.tree = w.tree ∨ status.isFailed = true ∧
      w.tree.find (f.layout.file p s).temporary = .ok (m, .file content executable) := by
  cases visit with
  | present | unasked | unanswered => exact Or.inl rfl
  | unwritten _ _ _ ran => exact Or.inr ⟨rfl, Disk.sibling_of_failed sound settled ran found⟩
  | written _ _ _ ran =>
    obtain ⟨_, -, holds⟩ := Holds.of_writeAtomically ran
    rw [temporary_file] at found
    obtain ⟨rfl, there, -⟩ := find_eq_inside s.plainName_temporary found
    rw [holds.gone] at there
    cases there

theorem step_fetchOne {r : FetchRecord} (ran : (f.fetchOne remote p s).run w = (r, w'))
    (sound : w.tree.Sound) (settled : w.tree.Settled f.layout) :
    FetchStep f remote w r w' ∧ (r.partition, r.split) = (p, s) := by
  obtain ⟨partition, split, path, status⟩ := r
  obtain ⟨visit, same⟩ := visit_fetchOne ran
  dsimp only at visit same
  obtain ⟨rfl, rfl, rfl⟩ := same
  have failed := visit.absent_of_failed sound settled
  refine ⟨⟨rfl, ?_, ?_, ?_, ?_, ?_, failed, fun _ _ _ => visit.sibling sound settled,
    fun _ _ => visit.kept sound settled, visit.confined sound settled⟩, rfl⟩
  · cases visit with
    | present has => simp [has, FetchStatus.isPresent]
    | unasked absent | unanswered absent | unwritten absent | written absent =>
      simp [absent, FetchStatus.isPresent]
  · intro present
    cases visit <;> simp [FetchStatus.isPresent] at present ⊢
  · cases visit with
    | present | unasked => exact Or.inl rfl
    | unanswered _ parsed | unwritten _ parsed | written _ parsed => exact Or.inr ⟨_, parsed, rfl⟩
  · cases visit with
    | present has => simp [has, FetchStatus.isDownloaded]
    | unasked absent | unanswered absent | unwritten absent =>
      have still := failed rfl
      dsimp only at still ⊢
      simp [still, FetchStatus.isDownloaded]
    | written absent _ _ wrote =>
      obtain ⟨_, -, holds⟩ := Holds.of_writeAtomically wrote
      obtain ⟨_, found⟩ := holds.find
      simp [absent, has_of_find found, FetchStatus.isDownloaded]
  · rintro bytes rfl
    cases visit with
    | written _ parsed reply wrote =>
      obtain ⟨_, same, holds⟩ := Holds.of_writeAtomically wrote
      cases same
      obtain ⟨_, found⟩ := holds.find
      exact ⟨_, _, _, _, parsed, reply, rfl, found⟩

inductive FetchRun (f : Fetcher) (remote : Remote) : World → List FetchRecord → World → Prop
  | nil (w : World) : FetchRun f remote w [] w
  | cons {w between w' : World} {r : FetchRecord} {rs : List FetchRecord}
    (step : FetchStep f remote w r between) (rest : FetchRun f remote between rs w') :
    FetchRun f remote w (r :: rs) w'

variable {rs rs' : List FetchRecord} {between : World}

theorem FetchRun.append (first : FetchRun f remote w rs between)
    (second : FetchRun f remote between rs' w') : FetchRun f remote w (rs ++ rs') w' := by
  induction first with
  | nil => exact second
  | cons step _ ih => exact .cons step (ih second)

theorem FetchRun.confined (run : FetchRun f remote w rs w') :
    Confined (w.tree.Above f.layout) (fun m => ∃ p name, m = w.tree.inside f.layout p name)
      w.tree w'.tree := by
  induction run with
  | nil w => exact .refl _ _ w.tree
  | @cons w between w' r rs step rest ih =>
    have first : Confined (w.tree.Above f.layout)
        (fun m => ∃ p name, m = w.tree.inside f.layout p name) w.tree between.tree := by
      refine step.confined.mono (fun _ _ => id) ?_
      rintro m ⟨-, tmp | ⟨-, file⟩⟩
      · exact ⟨_, _, tmp⟩
      · exact ⟨_, _, file⟩
    rw [above_congr first.keeps.workdir] at ih
    simp only [inside_congr first.keeps.workdir] at ih
    exact first.trans ih

theorem FetchRun.kept (run : FetchRun f remote w rs w')
    (has : w.tree.has (f.layout.file p s) = true) :
    w'.tree.find (f.layout.file p s) = w.tree.find (f.layout.file p s) := by
  induction run with
  | nil => rfl
  | cons step _ ih =>
    have same := step.kept p s has
    rw [ih ((has_congr same).trans has), same]

theorem FetchRun.requests (run : FetchRun f remote w rs w') : ∃ made,
    w'.requests = w.requests ++ made ∧
      (made.map fun q => some (Url.web q.url)).Sublist
        ((rs.filter fun r => !r.status.isPresent).map fun r =>
          Url.parse? (f.url r.partition r.split)) := by
  induction run with
  | nil w => exact ⟨[], by simp⟩
  | @cons w between w' r rs step rest ih =>
    obtain ⟨made, all, within⟩ := ih
    cases present : r.status.isPresent with
    | true =>
      obtain rfl := step.untouched present
      exact ⟨made, all, by simpa [present] using within⟩
    | false =>
      rcases step.asked with same | ⟨url, parsed, asked⟩
      · refine ⟨made, all.trans (by rw [same]), ?_⟩
        simpa [present] using within.cons _
      · refine ⟨⟨url, (remote w.requests.length url).isAnswer⟩ :: made, ?_, ?_⟩
        · rw [all, asked, List.append_assoc]
          rfl
        · simpa [present, parsed] using within

theorem FetchRun.of_present (run : FetchRun f remote w rs w')
    (present : ∀ r ∈ rs, w.tree.has (f.layout.file r.partition r.split) = true) : w' = w := by
  induction run with
  | nil => rfl
  | cons step _ ih =>
    have here := present _ List.mem_cons_self
    rw [← step.path, ← step.present] at here
    obtain rfl := step.untouched here
    exact ih fun r member => present r (List.mem_cons_of_mem _ member)

theorem run_visits {xs : List (Partition × Split)} (sound : w.tree.Sound)
    (settled : w.tree.Settled f.layout)
    (ran : (xs.mapM fun x => f.fetchOne remote x.1 x.2).run w = (rs, w')) :
    FetchRun f remote w rs w' ∧ rs.map (fun r => (r.partition, r.split)) = xs := by
  induction xs generalizing w rs with
  | nil =>
    cases ran
    exact ⟨.nil _, rfl⟩
  | cons x xs ih =>
    obtain ⟨r, between, rest, first, later, rfl⟩ := mapM_cons_run.mp ran
    obtain ⟨step, pair⟩ := step_fetchOne first sound settled
    obtain ⟨run, pairs⟩ := ih (step.confined.sound sound)
      (settled.of_keeps step.confined.keeps) later
    exact ⟨.cons step run, by rw [List.map_cons, pair, pairs]⟩

theorem run_fetchAll {partitions : List Partition} (sound : w.tree.Sound)
    (settled : w.tree.Settled f.layout) (ran : (f.fetchAll remote partitions).run w = (rs, w')) :
    FetchRun f remote w rs w' ∧
      rs.map (fun r => (r.partition, r.split)) = stagedSplits partitions :=
  run_visits sound settled ran

theorem run_calls {calls : List (List Partition)} {reports : List (List FetchRecord)}
    (sound : w.tree.Sound) (settled : w.tree.Settled f.layout)
    (ran : (calls.mapM (f.fetchAll remote)).run w = (reports, w')) :
    FetchRun f remote w reports.flatten w' ∧
      reports.map (List.map fun r => (r.partition, r.split)) = calls.map stagedSplits := by
  induction calls generalizing w reports with
  | nil =>
    cases ran
    exact ⟨.nil _, rfl⟩
  | cons partitions calls ih =>
    obtain ⟨records, between, rest, first, later, rfl⟩ := mapM_cons_run.mp ran
    obtain ⟨run, pairs⟩ := run_fetchAll sound settled first
    obtain ⟨more, all⟩ :=
      ih (run.confined.sound sound) (settled.of_keeps run.confined.keeps) later
    exact ⟨run.append more, by rw [List.map_cons, List.map_cons, pairs, all]⟩

/-- Any number of calls one after another, whatever the server does: each is a run of visits, one for
each split of its list in order. Files that are there stay as they are, requests are made for absent
files only, and once all files are there nothing changes. -/
theorem fetchAll_fills_gaps {calls : List (List Partition)} {reports : List (List FetchRecord)}
    (sound : w.tree.Sound) (settled : w.tree.Settled f.layout)
    (ran : (calls.mapM (f.fetchAll remote)).run w = (reports, w')) :
    reports.map (List.map fun r => (r.partition, r.split)) = calls.map stagedSplits ∧
    FetchRun f remote w reports.flatten w' ∧
    (∀ p s, w.tree.has (f.layout.file p s) = true →
      w'.tree.find (f.layout.file p s) = w.tree.find (f.layout.file p s)) ∧
    (∃ made, w'.requests = w.requests ++ made ∧
      (made.map fun q => some (Url.web q.url)).Sublist
        ((reports.flatten.filter fun r => !r.status.isPresent).map fun r =>
          Url.parse? (f.url r.partition r.split))) ∧
    ((∀ q ∈ calls.flatten, ∀ s ∈ Split.staged, w.tree.has (f.layout.file q s) = true) → w' = w) := by
  obtain ⟨run, pairs⟩ := run_calls sound settled ran
  refine ⟨pairs, run, fun _ _ => run.kept, run.requests, fun present => run.of_present ?_⟩
  intro r member
  have inside : (r.partition, r.split) ∈ stagedSplits calls.flatten := by
    have whole : stagedSplits calls.flatten = (calls.map stagedSplits).flatten := by
      rw [stagedSplits, List.flatMap_def, List.map_flatten, List.flatten_flatten, List.map_map]
      rfl
    rw [whole, ← pairs, ← List.map_flatten]
    exact List.mem_map_of_mem member
  obtain ⟨q, listed, split⟩ := List.mem_flatMap.mp inside
  obtain ⟨s, staged, same⟩ := List.mem_map.mp split
  cases same
  exact present _ listed _ staged

/-- No request gets a file. -/
def Silent (remote : Remote) : Prop :=
  ∀ number url, ((remote number url).content url).isOk = false

theorem Silent.not_ok (silent : Silent remote) {number : Nat} {url : String} {content : Content}
    (reply : (remote number url).content url = .ok content) : False := by
  have answer := silent number url
  rw [reply] at answer
  cases answer

theorem visit_of_silent {status : FetchStatus} (silent : Silent remote)
    (visit : Visit f remote p s w status w') : w'.tree = w.tree ∧
      (status.isPresent = true ↔ w.tree.has (f.layout.file p s) = true) ∧
      (status.isPresent = false → status.isFailed = true) := by
  cases visit with
  | present has => simp [has, FetchStatus.isPresent]
  | unasked absent | unanswered absent =>
    simp [absent, World.asked, FetchStatus.isPresent, FetchStatus.isFailed]
  | unwritten _ _ reply | written _ _ reply =>
    exact (silent.not_ok reply).elim

theorem visits_of_silent (silent : Silent remote) {xs : List (Partition × Split)}
    (ran : (xs.mapM fun x => f.fetchOne remote x.1 x.2).run w = (rs, w')) :
    w'.tree = w.tree ∧ rs.map (fun r => (r.partition, r.split)) = xs ∧
      ∀ r ∈ rs, (r.status.isPresent = true ↔
          w.tree.has (f.layout.file r.partition r.split) = true) ∧
        (r.status.isPresent = false → r.status.isFailed = true) := by
  induction xs generalizing w rs with
  | nil =>
    cases ran
    exact ⟨rfl, rfl, nofun⟩
  | cons x xs ih =>
    obtain ⟨r, between, rest, first, later, rfl⟩ := mapM_cons_run.mp ran
    obtain ⟨visit, partition, split, -⟩ := visit_fetchOne first
    obtain ⟨same, here⟩ := visit_of_silent silent visit
    obtain ⟨same', pairs, there⟩ := ih later
    rw [same] at same' there
    rw [← partition, ← split] at here
    refine ⟨same', ?_, List.forall_mem_cons.mpr ⟨here, there⟩⟩
    rw [List.map_cons, pairs, partition, split]

section Flaky

def fivePeople : Partition := ⟨"5ppl", by decide⟩

def halfFetched : World where
  tree := {
    workdir := ["work"]
    entries := [
      (["work"], .directory),
      (["work", "raw"], .directory),
      (["work", "raw", "5ppl"], .directory),
      (["work", "raw", "5ppl", "train.parquet"], .file .empty false)] }

def flaky : Remote := fun number _ => .body (if number = 0 then 404 else 200) (.table ⟨[], []⟩ []) true

def fromHost (root : String) : Fetcher := ⟨"http://host", ⟨⟨root⟩⟩⟩

/-- A partition is listed twice, and the second visit finds what the first could not get. -/
theorem fetchAll_fills_gaps_of_flaky : ∃ reports w',
    ([[fivePeople, fivePeople], [fivePeople]].mapM ((fromHost "raw").fetchAll flaky)).run
      halfFetched = (reports, w') ∧
    FetchRun (fromHost "raw") flaky halfFetched reports.flatten w' ∧
    reports.map (List.map fun r => (r.status.isPresent, r.status.isDownloaded)) =
      [[(true, false), (false, false), (true, false), (false, true)],
        [(true, false), (true, false)]] ∧
    w'.requests.map (·.url) =
      ["http://host/5ppl/test.parquet", "http://host/5ppl/test.parquet"] := by
  refine ⟨_, _, (Prod.mk.eta).symm, ?_, by decide +kernel, by decide +kernel⟩
  have settled : halfFetched.tree.Settled (fromHost "raw").layout :=
    ⟨[], _, _, rfl, rfl, by decide⟩
  exact (fetchAll_fills_gaps (by decide) settled (Prod.mk.eta).symm).2.1

/-- Where the root takes a detour by a directory that is not there, a file that lies in it is asked for
all the same, and an answer takes its place. -/
theorem fetchAll_overwrites : ∃ missed unmet loaded met,
    ((fromHost "x/../raw").fetchAll (fun _ _ => .refused) [fivePeople]).run halfFetched =
      (missed, unmet) ∧
    ((fromHost "x/../raw").fetchAll (fun _ _ => .body 200 (.table ⟨[], []⟩ []) true)
      [fivePeople]).run halfFetched = (loaded, met) ∧
    halfFetched.tree.inside (fromHost "x/../raw").layout fivePeople "train.parquet" =
      ["work", "raw", "5ppl", "train.parquet"] ∧
    halfFetched.tree.get? ["work", "raw", "5ppl", "train.parquet"] = some (.file .empty false) ∧
    missed.map (·.status.isFailed) = [true, true] ∧
    unmet.requests.map (·.url) =
      ["http://host/5ppl/train.parquet", "http://host/5ppl/test.parquet"] ∧
    loaded.map (·.status.isDownloaded) = [true, true] ∧
    (met.tree.get? ["work", "raw", "5ppl", "train.parquet"]).map
      (fun e => e.content?.bind Content.size?) = some none :=
  ⟨_, _, _, _, (Prod.mk.eta).symm, (Prod.mk.eta).symm, by decide, rfl, by decide +kernel,
    by decide +kernel, by decide +kernel, by decide +kernel⟩

end Flaky

end Fetcher

end PuzzlePrep

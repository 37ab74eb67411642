import PuzzlePrep.Proofs.Record.Row
import PuzzlePrep.Proofs.Stage.Preprocess

namespace PuzzlePrep.Disk

open PuzzlePrep.Tree

variable {t t' : Tree} {input output : Path} {raw : Table}

def Writable (t : Tree) (p : Path) : Prop :=
  ∃ content t', (writeAtomically p (.ok content)).on t = (.ok (), t')

theorem Writable.write {p : Path} (writable : Writable t p) (content : Content) :
    ∃ t', (writeAtomically p (.ok content)).on t = (.ok (), t') := by
  obtain ⟨_, _, ran⟩ := writable
  obtain ⟨between, made, replaced⟩ := writeAtomically_on_ok.mp ran
  obtain ⟨_, origin, goal, -, sibling, target, -⟩ := replace_on_ok.mp replaced
  have again := replace_on_ok.mpr ⟨content, origin, goal, rfl, sibling, target, rfl⟩
  exact ⟨_, writeAtomically_on_ok.mpr ⟨between, made, again⟩⟩

theorem table_of_writeAtomically {p : Path} {table : Table}
    (batches : table.batches = Table.batchesOf table.rows) (kept : table.restored? = some table)
    (ran : (writeAtomically p (.ok (.ofTable table))).on t = (.ok (), t')) :
    t'.table p = .ok table := by
  obtain ⟨content, origin, goal, given, written⟩ := written_of_writeAtomically ran
  cases given
  obtain ⟨executable, found⟩ := written.find
  refine (table_of_find found).mpr ?_
  rwa [← batches]

section Gaps

def gaps : Table where
  schema := ⟨[.mk "quiz" .utf8 true, .mk "names" (.listOf .largeUtf8) true], []⟩
  batches := [[[.text "Who?", .list [.text "Zoey", .null]], [.null, .null]]]

def withGaps : Tree where
  workdir := ["work"]
  entries := [(["work"], .directory), (["work", "raw.parquet"], .file (.ofTable gaps) false)]

theorem listColumn_gaps : gaps.ListColumn "names" := by
  intro type present
  cases Option.some.inj present
  refine ⟨⟨"item", .largeUtf8, rfl, by decide⟩, fun r member => ?_⟩
  simp only [gaps, Table.rows, List.flatten_cons, List.flatten_nil, List.append_nil, List.mem_cons,
    List.not_mem_nil, or_false] at member
  rcases member with rfl | rfl
  · refine .list fun c inside => ?_
    simp only [List.mem_cons, List.not_mem_nil, or_false] at inside
    rcases inside with rfl | rfl
    · exact .largeUtf8
    · exact .null
  · exact .null

end Gaps

end PuzzlePrep.Disk

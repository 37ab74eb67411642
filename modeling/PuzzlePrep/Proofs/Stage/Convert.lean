import PuzzlePrep.Proofs.Record.Stored
import PuzzlePrep.Proofs.Stage.Merge

namespace PuzzlePrep

def renumbered (rows : List Json.Members) : List Json.Members :=
  rows.mapIdx fun index row => row.withIndex index

theorem mapIdx_flatten_renumbered {α : Type} (parts : List (List Json.Members))
    (f : Nat → Json.Members → α) (index : ∀ k j row, f k (row.withIndex j) = f k row) :
    (parts.map renumbered).flatten.mapIdx f = parts.flatten.mapIdx f := by
  -- The indices of later parts are shifted, so `f` is any function that sees no old index.
  induction parts generalizing f with
  | nil => rfl
  | cons rows parts ih =>
    have length : (renumbered rows).length = rows.length := List.length_mapIdx
    have first : (renumbered rows).mapIdx f = rows.mapIdx f := by
      rw [renumbered, List.mapIdx_mapIdx]
      congr 1
      funext k row
      exact index k k row
    rw [List.map_cons, List.flatten_cons, List.flatten_cons, List.mapIdx_append, List.mapIdx_append,
      length, first, ih _ fun k => index _]

theorem renumbered_flatten (parts : List (List Json.Members)) :
    renumbered (parts.map renumbered).flatten = renumbered parts.flatten :=
  mapIdx_flatten_renumbered parts _ fun k j row => row.withIndex_withIndex j k

namespace Record

def stored? (raw : Table) (split : Split) : Option (List Json.Members) :=
  (ofRows raw.rowsJson split).mapM fun r => (schema raw.schema).stored? r.toMembers

def storedRows? (raw : Table) (split : Split) : Option (List Json.Members) :=
  raw.rowsJson.mapM (storedRow? raw.schema split)

/-- Raw rows come back one by one, each with its position. -/
theorem stored?_eq (raw : Table) (split : Split) :
    stored? raw split = (storedRows? raw split).map renumbered := by
  rw [stored?, ofRows, List.mapM_map]
  change raw.rowsJson.zipIdx.mapM
    (fun x => (schema raw.schema).stored? (ofRow x.1 split x.2).toMembers) = _
  simp only [stored?_ofRow]
  exact mapM_zipIdx raw.rowsJson Json.Members.withIndex 0

theorem stored?_of_rows {raw : Table} {split : Split} {rows : List Row}
    (fit : ((ofRows raw.rowsJson split).mapM fun r => (schema raw.schema).rowOfJson? r.toMembers) =
      some rows) : stored? raw split = rows.mapM (schema raw.schema).restoredJson? := by
  have steps := mapM_bind (ofRows raw.rowsJson split)
    (f := fun r => (schema raw.schema).rowOfJson? r.toMembers) (schema raw.schema).restoredJson?
  rw [fit] at steps
  exact steps

end Record

namespace Disk

variable {t t' u u' : Tree} {input target : Path} {label : Split} {limit : Nat} {summary : Summary}

/-- Every raw row fits as a record, and the target holds what a file gives back for them. -/
theorem convert_on_ok (h : (convert input target label limit).on u = (.ok summary, u')) :
    ∃ raw, u.table input = .ok raw ∧
      (∀ r ∈ Record.ofRows raw.rowsJson label,
        ((Record.schema raw.schema).rowOfJson? r.toMembers).isSome) ∧
      u'.load target = orBroken (Record.stored? raw label) := by
  rw [convert, bind_on_ok] at h
  obtain ⟨_, _, got, h⟩ := h
  cases got
  split at h
  · cases h
  · obtain ⟨raw, between, read, built⟩ := bind_on_ok.mp h
    obtain ⟨read, rfl⟩ := readTable_on_ok.mp read
    refine ⟨raw, read, ?_⟩
    simp only [Record.toTable, Table.rows_load_none] at built
    cases fit : (Record.ofRows raw.rowsJson label).mapM fun r =>
        (Record.schema raw.schema).rowOfJson? r.toMembers with
    | none =>
      rw [fit] at built
      cases built
    | some rows =>
      rw [fit] at built
      obtain ⟨⟨⟩, after, ran, built⟩ := bind_on_ok.mp built
      cases built
      refine ⟨isSome_mapM_iff.mp (by rw [fit]; rfl), ?_⟩
      rw [load_of_writeTable ran, Table.rows_batchesOf, Record.stored?_of_rows fit]

end Disk

/-- Converting the file, in whatever tree has the same table in it, leaves a file that loads so. -/
def Converted (t : Tree) (input : Path) (label : Split)
    (loaded : Except Failure (List Json.Members)) : Prop :=
  ∃ u u' target limit summary, u.table input = t.table input ∧
    (Disk.convert input target label limit).on u = (.ok summary, u') ∧ u'.load target = loaded

section Merged

variable {t t' : Tree} {l : Layout} {split label : Split} {found : List (Partition × Table)}
  {merged : Table} {input : Path} {loaded : Except Failure (List Json.Members)}

theorem Converted.loaded_eq (h : Converted t input label loaded) {raw : Table}
    (read : t.table input = .ok raw) :
    (∀ r ∈ Record.ofRows raw.rowsJson label,
      ((Record.schema raw.schema).rowOfJson? r.toMembers).isSome) ∧
    loaded = orBroken (Record.stored? raw label) := by
  obtain ⟨u, u', target, limit, summary, same, ran, rfl⟩ := h
  obtain ⟨raw', read', fits, load⟩ := Disk.convert_on_ok ran
  rw [same, read] at read'
  cases read'
  exact ⟨fits, load⟩

theorem parts_eq {parts : List (Except Failure (List Json.Members))}
    (tables : ∀ e ∈ found, t.table (l.file e.1 split) = .ok e.2)
    (each : List.Forall₂ (fun p => Converted t (l.file p split) label) (found.map Prod.fst) parts) :
    parts = found.map fun e => orBroken (Record.stored? e.2 label) := by
  rw [List.forall₂_map_left_iff] at each
  have equal : List.Forall₂ (fun (e : Partition × Table) part =>
      orBroken (Record.stored? e.2 label) = part) found parts :=
    ((List.forall₂_and_left _ _).mpr ⟨tables, each⟩).imp fun _ _ h => (h.2.loaded_eq h.1).2.symm
  rw [← List.forall₂_map_left_iff (R := Eq), List.forall₂_eq_eq_eq] at equal
  exact equal.symm

/-- The rows of a whole come back as those of the tables in it, if all of them fit. -/
theorem storedRows?_merged (types : ∀ e ∈ found, ∀ name type,
      columnType? e.2.schema.columns name = some type →
        columnType? merged.schema.columns name = some type)
    (rows : merged.rowsJson = found.flatMap fun e => e.2.rowsJson)
    (fits : ∀ r ∈ Record.ofRows merged.rowsJson label,
      ((Record.schema merged.schema).rowOfJson? r.toMembers).isSome) :
    Record.storedRows? merged label =
      (found.mapM fun e => Record.storedRows? e.2 label).map List.flatten := by
  have same : ∀ e ∈ found, e.2.rowsJson.mapM (Record.storedRow? merged.schema label) =
      Record.storedRows? e.2 label := by
    intro e member
    refine mapM_congr fun row inside => ?_
    have present : row ∈ merged.rowsJson := by
      rw [rows]
      exact List.mem_flatMap.mpr ⟨e, member, inside⟩
    obtain ⟨index, here⟩ := List.getElem?_of_mem present
    have numbered := List.mk_mem_zipIdx_iff_getElem?.mpr here
    have fit := fits _ (List.mem_map.mpr ⟨_, numbered, rfl⟩)
    obtain ⟨r, -, rfl⟩ := List.mem_map.mp inside
    exact Record.storedRow?_of_more_columns (types e member)
      (fun _ lacks => get?_rowJson_of_missing lacks r) fit
  rw [Record.storedRows?, rows, List.flatMap_def, mapM_flatten, List.mapM_map]
  exact congrArg _ (mapM_congr same)

/-- Converting a merged file gives what converting the files of its sources gives, in the order of the
list, with the positions in the whole as indices. -/
theorem convert_merged {sources : List Partition} {output : Partition} {path : Path} {count : Nat}
    {brought : List SourceRows} {whole : Except Failure (List Json.Members)}
    {parts : List (Except Failure (List Json.Members))} (differ : output ∉ sources)
    (apart : ColumnsApart t l split sources)
    (merge : (Disk.mergeSplit l sources output split).on t = (.ok (.written path count brought), t'))
    (converted : Converted t' (l.file output split) label whole)
    (each : List.Forall₂ (fun p => Converted t' (l.file p split) label)
      (sources.filter fun p => t'.has (l.file p split)) parts) :
    whole = (parts.mapM id).map (fun parts => renumbered parts.flatten) ∧
    ∀ index < Number.signedBound, Record.signed index = index := by
  refine ⟨?_, fun _ => Record.signed_of_lt⟩
  obtain ⟨found, merged, files, read, rows, types⟩ := Disk.mergeSplit_leaves differ apart merge
  obtain ⟨fits, rfl⟩ := converted.loaded_eq read
  rw [← files.partitions] at each
  have sides : parts.mapM id =
      orBroken ((found.mapM fun e => Record.storedRows? e.2 label).map (List.map renumbered)) := by
    rw [parts_eq files.tables each, List.mapM_map, ← mapM_map, ← mapM_orBroken]
    simp only [Record.stored?_eq]
    rfl
  rw [sides, map_orBroken, Record.stored?_eq, storedRows?_merged types rows fits, Option.map_map,
    Option.map_map]
  congr 2
  funext parts
  exact (renumbered_flatten parts).symm

end Merged

section Named

open Disk

def named : Tree where
  workdir := ["work"]
  entries := [
    (["work"], .directory),
    (["work", "raw"], .directory),
    (["work", "raw", "3ppl"], .directory),
    (["work", "raw", "3ppl", "train.parquet"],
      .file (.table ⟨[.mk "quiz" .utf8 true, .mk "names" (.listOf .utf8) true], []⟩
        [[.text "Who?", .list [.text "Zoey"]], [.null, .null]]) false),
    (["work", "raw", "4ppl"], .directory),
    (["work", "raw", "4ppl", "train.parquet"],
      .file (.table ⟨[.mk "quiz" .utf8 true], []⟩ [[.text "Why?"]]) false)]

def namedMerged : Tree :=
  ((mergeSplit rawLayout [threePeople, fourPeople] mixedPeople .train).on named).2

theorem converted_named (p : Partition) (member : p ∈ [threePeople, fourPeople, mixedPeople]) :
    ∃ rows, Converted namedMerged (rawLayout.file p .train) .train (.ok rows) := by
  simp only [List.mem_cons, List.not_mem_nil, or_false] at member
  rcases member with rfl | rfl | rfl
  all_goals exact ⟨_, namedMerged, _, ⟨"converted.parquet"⟩, 0, _, rfl, rfl, rfl⟩

/-- Two files of different columns, merged and converted. -/
theorem convert_merged_of_two : ∃ whole first second,
    Converted namedMerged (rawLayout.file mixedPeople .train) .train (.ok whole) ∧
    Converted namedMerged (rawLayout.file threePeople .train) .train (.ok first) ∧
    Converted namedMerged (rawLayout.file fourPeople .train) .train (.ok second) ∧
    whole = renumbered (first ++ second) := by
  obtain ⟨first, three⟩ := converted_named threePeople (by simp)
  obtain ⟨second, four⟩ := converted_named fourPeople (by simp)
  obtain ⟨whole, mixed⟩ := converted_named mixedPeople (by simp)
  have merge : (mergeSplit rawLayout [threePeople, fourPeople] mixedPeople .train).on named =
      (.ok (.written (rawLayout.file mixedPeople .train) 3 [⟨threePeople, 2⟩, ⟨fourPeople, 1⟩]),
        namedMerged) := rfl
  have same := (convert_merged (by decide) (by decide) merge mixed
    (.cons three (.cons four .nil))).1
  exact ⟨whole, first, second, mixed, three, four, by simpa using Except.ok.inj same⟩

end Named

end PuzzlePrep

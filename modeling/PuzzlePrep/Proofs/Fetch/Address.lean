import PuzzlePrep.Proofs.Fetch.Url
import PuzzlePrep.Proofs.Files.Apart
import PuzzlePrep.Proofs.Files.Layout
import PuzzlePrep.Proofs.Stage.Fetch
import Mathlib.Data.List.Basic
import Mathlib.Data.List.Nodup

namespace PuzzlePrep

open Url

def Url.special : List Char := ['?', '#', '%', '\t', '\n', '\r']

/-- A name that comes out of a URL as it went in. -/
def Partition.IsPlain (p : Partition) : Prop := ∀ c ∈ p.name.toList, c ∉ special

instance (p : Partition) : Decidable p.IsPlain :=
  decidable_of_iff (p.name.toList.all (!special.contains ·) = true) (by simp [Partition.IsPlain])

theorem Partition.IsPlain.unsigned {p : Partition} (plain : p.IsPlain) : '%' ∉ p.name.toList :=
  fun member => plain _ member (by decide)

theorem Partition.IsPlain.sendable {p : Partition} (plain : p.IsPlain) : Sendable p.name.toList where
  segment := by
    obtain ⟨-, slash, backslash, -, -⟩ := Partition.isSegment_iff.mp p.segment
    exact .of_unsigned plain.unsigned slash backslash p.plainName.dot p.plainName.dots
  unmarked c member := by
    have other := plain c member
    simp only [special, List.mem_cons, not_or] at other
    exact isMark_eq_false_iff.mpr ⟨other.1, other.2.1⟩
  kept c member := by
    have other := plain c member
    simp only [special, List.mem_cons, not_or] at other
    simp [isKept, other]

theorem Split.sendable_fileName (s : Split) : Sendable s.fileName.toList := by
  cases s <;> exact ⟨⟨by decide, by decide, by decide, by decide⟩, by decide,
    List.all_eq_true.mp (by decide)⟩

theorem Split.escape_fileName (s : Split) :
    escape reservedInPath s.fileName.toList = s.fileName.toList := by
  cases s <;> decide

namespace Fetcher

variable {f : Fetcher} {p q : Partition} {s t : Split}

theorem base_spec (f : Fetcher) : (∃ n, f.baseUrl.toList = f.base.toList ++ List.replicate n '/') ∧
    f.base.toList.getLast? ≠ some '/' := by
  have whole := List.takeWhile_append_dropWhile (p := (· == '/')) (l := f.baseUrl.toList.reverse)
  have slashes : f.baseUrl.toList.reverse.takeWhile (· == '/') =
      List.replicate (f.baseUrl.toList.reverse.takeWhile (· == '/')).length '/' :=
    List.eq_replicate_iff.mpr ⟨rfl, fun c member => by simpa using List.mem_takeWhile_imp member⟩
  have stop := List.head?_dropWhile_not (· == '/') f.baseUrl.toList.reverse
  constructor
  · refine ⟨(f.baseUrl.toList.reverse.takeWhile (· == '/')).length, ?_⟩
    rw [base, String.toList_ofList, ← List.reverse_replicate, ← slashes, ← List.reverse_append, whole,
      List.reverse_reverse]
  · rw [base, String.toList_ofList, List.getLast?_reverse]
    intro last
    rw [last] at stop
    simp at stop

theorem unmarked_base (bare : Unmarked f.baseUrl.toList) : Unmarked f.base.toList := by
  obtain ⟨⟨n, whole⟩, -⟩ := f.base_spec
  rw [whole] at bare
  exact (unmarked_append.mp bare).1

theorem toList_url (f : Fetcher) (p : Partition) (s : Split) : (f.url p s).toList =
    f.base.toList ++ '/' :: (p.name.toList ++ '/' :: s.fileName.toList) := by
  simp [url]

/-- A name with a mark ends the path, whatever the split. -/
theorem pathOf_url_of_marked (bare : Unmarked f.baseUrl.toList) (marked : ¬ Unmarked p.name.toList) :
    pathOf (f.url p s) = f.base.toList ++ '/' :: pathOf p.name := by
  rw [pathOf, toList_url, takeWhile_append_of_unmarked (unmarked_base bare),
    List.takeWhile_cons_of_pos rfl, pathOf]
  rcases exists_first_or_all (!isMark ·) p.name.toList with all | ⟨front, c, back, whole, -, stop⟩
  · exact absurd (fun c member => by simpa using all c member) marked
  · rw [whole, List.append_assoc, List.cons_append, takeWhile_append_stop stop,
      takeWhile_append_stop stop]

theorem toList_url_inj (same : (f.url p s).toList = (f.url q t).toList) : p = q ∧ s = t := by
  rw [toList_url, toList_url, List.append_cancel_left_eq, List.cons.injEq] at same
  obtain ⟨names, -, files⟩ := (List.append_cons_inj_of_notMem p.plainName.slash
    s.plainName.slash).mp same.2
  exact ⟨Partition.name_injective (String.toList_inj.mp names),
    Split.fileName_injective (String.toList_inj.mp files)⟩

theorem pathOf_url_eq_iff (bare : Unmarked f.baseUrl.toList) :
    pathOf (f.url p s) = (f.url p s).toList ↔ Unmarked p.name.toList := by
  rw [pathOf, takeWhile_eq_self_iff, toList_url, unmarked_append,
    and_iff_right (unmarked_base bare)]
  exact ⟨fun all c member => all c (by simp [member]),
    fun unmarked => forall_mem_segments rfl unmarked s.sendable_fileName.unmarked⟩

/-- The requests for the files of plain partitions differ in the name and the split alone. -/
theorem exists_request_front {text : String} (usable : parse? f.base = some (.web text))
    (bare : Unmarked f.baseUrl.toList) : ∃ front? : Option (List Char), ∀ (p : Partition) (s : Split),
      p.IsPlain → parse? (f.url p s) = front?.map fun front => .web (String.ofList
        (front ++ (escape reservedInPath p.name.toList ++ '/' :: s.fileName.toList))) := by
  obtain ⟨front?, requests⟩ := parse?_segments usable (unmarked_base bare)
  refine ⟨front?, fun p s plain => ?_⟩
  obtain ⟨name, last, split, visible⟩ :
      ∃ name last, s.fileName.toList = name ++ [last] ∧ isOuter last = false := by
    exact ⟨s.fileName.toList.dropLast, 't', by cases s <;> decide, rfl⟩
  have file := s.sendable_fileName
  rw [← s.escape_fileName, split]
  rw [split] at file
  exact requests _ _ _ _ (by rw [toList_url, split]) plain.sendable file visible

theorem request_injective {text url : String} (usable : parse? f.base = some (.web text))
    (bare : Unmarked f.baseUrl.toList) (hp : p.IsPlain) (hq : q.IsPlain)
    (first : parse? (f.url p s) = some (.web url)) (second : parse? (f.url q t) = some (.web url)) :
    p = q ∧ s = t := by
  obtain ⟨front?, requests⟩ := exists_request_front usable bare
  rw [requests p s hp] at first
  rw [requests q t hq] at second
  obtain ⟨front, rfl, here⟩ := Option.map_eq_some_iff.mp first
  obtain ⟨_, same, there⟩ := Option.map_eq_some_iff.mp second
  cases same
  have texts := String.ofList_injective (Url.web.inj (here.trans there.symm))
  obtain ⟨names, -, files⟩ := (List.append_cons_inj_of_notMem
    (slash_not_mem_escape _ hp.sendable.segment.slash) s.sendable_fileName.segment.slash).mp
    (List.append_cancel_left texts)
  have name := String.toList_inj.mp (escape_injective hp.unsigned hq.unsigned names)
  exact ⟨Partition.name_injective name, Split.fileName_injective (String.toList_inj.mp files)⟩

theorem requests_nodup {remote : Remote} {w w' : World} {partitions : List Partition}
    {records : List FetchRecord} {text : String} (usable : parse? f.base = some (.web text))
    (bare : Unmarked f.baseUrl.toList) (distinct : partitions.Nodup)
    (plain : ∀ p ∈ partitions, p.IsPlain) (sound : w.tree.Sound) (settled : w.tree.Settled f.layout)
    (ran : (f.fetchAll remote partitions).run w = (records, w')) :
    ∃ made, w'.requests = w.requests ++ made ∧ (made.map (·.url)).Nodup := by
  obtain ⟨run, pairs⟩ := run_fetchAll sound settled ran
  obtain ⟨made, all, within⟩ := run.requests
  refine ⟨made, all, ?_⟩
  obtain ⟨asked, sub, urls⟩ := List.sublist_map_iff.mp within
  have visits := (sub.trans List.filter_sublist).map fun r => (r.partition, r.split)
  rw [pairs] at visits
  have different : (asked.map fun r => (r.partition, r.split)).Nodup :=
    visits.nodup (nodup_stagedSplits distinct)
  have listed : ∀ r ∈ asked, r.partition.IsPlain := by
    intro r member
    obtain ⟨p, known, split⟩ := List.mem_flatMap.mp (visits.subset (List.mem_map_of_mem member))
    obtain ⟨s, -, same⟩ := List.mem_map.mp split
    cases same
    exact plain _ known
  -- The URLs are those that the visits of these files ask for, and two visits ask for two.
  refine List.Nodup.of_map (fun url => some (Url.web url)) ?_
  rw [List.map_map]
  show (made.map fun q => some (Url.web q.url)).Nodup
  rw [urls]
  refine List.Nodup.map_on (fun r hr r' hr' same => ?_) different.of_map
  have sent : parse? (f.url r.partition r.split) ∈ made.map fun q => some (Url.web q.url) := by
    rw [urls]
    exact List.mem_map_of_mem hr
  obtain ⟨q, -, request⟩ := List.mem_map.mp sent
  obtain ⟨partition, split⟩ := request_injective usable bare (listed r hr) (listed r' hr') request.symm
    (same.symm.trans request.symm)
  exact List.inj_on_of_nodup_map different hr hr' (by rw [partition, split])

/-- Behind a base without marks, the path of a URL is the base without the slashes at its end, the name
and the file of the split just where the name has no mark; with a mark the path ends there, whatever the
split. Unmarked names have paths of their own. Where the base can be asked for, plain names have requests
of their own, so a run over distinct partitions of plain names asks for no URL twice. -/
theorem urls_keep_apart (f : Fetcher) (bare : Unmarked f.baseUrl.toList) :
    (∃ n, f.baseUrl.toList = f.base.toList ++ List.replicate n '/') ∧
    f.base.toList.getLast? ≠ some '/' ∧
    (∀ p s, pathOf (f.url p s) =
        f.base.toList ++ '/' :: (p.name.toList ++ '/' :: s.fileName.toList) ↔
      Unmarked p.name.toList) ∧
    (∀ p s, ¬ Unmarked p.name.toList →
      pathOf (f.url p s) = f.base.toList ++ '/' :: pathOf p.name) ∧
    (∀ p q s t, Unmarked p.name.toList → Unmarked q.name.toList →
      pathOf (f.url p s) = pathOf (f.url q t) → p = q ∧ s = t) ∧
    ∀ text, parse? f.base = some (.web text) →
      (∀ p q s t url, p.IsPlain → q.IsPlain → parse? (f.url p s) = some (.web url) →
        parse? (f.url q t) = some (.web url) → p = q ∧ s = t) ∧
      ∀ (remote : Remote) (w w' : World) (partitions : List Partition) (records : List FetchRecord),
        partitions.Nodup → (∀ p ∈ partitions, p.IsPlain) → w.tree.Sound →
        w.tree.Settled f.layout → (f.fetchAll remote partitions).run w = (records, w') →
        ∃ made, w'.requests = w.requests ++ made ∧ (made.map (·.url)).Nodup := by
  obtain ⟨slashes, ends⟩ := f.base_spec
  refine ⟨slashes, ends, fun p s => ?_, fun p s marked => pathOf_url_of_marked bare marked,
    fun p q s t hp hq same => ?_, fun text usable => ⟨?_, ?_⟩⟩
  · rw [← toList_url, pathOf_url_eq_iff bare]
  · rw [(pathOf_url_eq_iff bare).mpr hp, (pathOf_url_eq_iff bare).mpr hq] at same
    exact toList_url_inj same
  · exact fun p q s t url => request_injective usable bare
  · exact fun remote w w' partitions records => requests_nodup usable bare

theorem urls_keep_apart_of_two : ∃ records w',
    ((fromHost "raw").fetchAll flaky [fivePeople]).run halfFetched = (records, w') ∧
    pathOf ((fromHost "raw").url fivePeople .train) = "http://host/5ppl/train.parquet".toList ∧
    pathOf ((fromHost "raw").url fivePeople .train) ≠ pathOf ((fromHost "raw").url fivePeople .test) ∧
    ∃ made, w'.requests = halfFetched.requests ++ made ∧ (made.map (·.url)).Nodup := by
  obtain ⟨-, -, paths, -, apart, requests⟩ := urls_keep_apart (fromHost "raw") (by decide)
  obtain ⟨-, runs⟩ := requests "http://host/" (by decide +kernel)
  have settled : halfFetched.tree.Settled (fromHost "raw").layout :=
    ⟨[], _, _, rfl, rfl, by decide⟩
  refine ⟨_, _, (Prod.mk.eta).symm, ?_, ?_, ?_⟩
  · exact (paths fivePeople .train).mpr (by decide)
  · intro same
    exact absurd (apart _ _ _ _ (by decide) (by decide) same).2 (by decide)
  · exact runs _ _ _ _ _ (by simp) (by decide) (by decide) settled (Prod.mk.eta).symm

/-- A name with a question mark is a partition, the splits of which share a path, and two partitions are
asked for with the same request if they differ in a tab. -/
theorem marked_names_share_requests : ∃ marked tabbed plain,
    Partition.ofNames ["a?b", "a\tb", "ab"] = .ok [marked, tabbed, plain] ∧
    Unmarked (fromHost "raw").baseUrl.toList ∧
    pathOf ((fromHost "raw").url marked .train) ≠
      ((fromHost "raw").base ++ "/" ++ marked.name ++ "/" ++ Split.fileName .train).toList ∧
    pathOf ((fromHost "raw").url marked .train) = "http://host/a".toList ∧
    pathOf ((fromHost "raw").url marked .test) = "http://host/a".toList ∧
    parse? ((fromHost "raw").url tabbed .train) = some (.web "http://host/ab/train.parquet") ∧
    parse? ((fromHost "raw").url plain .train) = some (.web "http://host/ab/train.parquet") :=
  ⟨⟨"a?b", by decide⟩, ⟨"a\tb", by decide⟩, ⟨"ab", by decide⟩, rfl, by decide, by decide +kernel,
    by decide +kernel, by decide +kernel, by decide +kernel, by decide +kernel⟩

end Fetcher

end PuzzlePrep

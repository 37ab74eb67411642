import PuzzlePrep.Proofs.Fetch.Escape
import PuzzlePrep.Proofs.Text.Lines
import Mathlib.Data.List.TakeDrop
import Mathlib.Data.List.TakeWhile

namespace PuzzlePrep.Url

open Text

def isMark (c : Char) : Bool := c == '?' || c == '#'

def pathOf (url : String) : List Char := url.toList.takeWhile (!isMark ·)

def Unmarked (cs : List Char) : Prop := ∀ c ∈ cs, isMark c = false

instance (cs : List Char) : Decidable (Unmarked cs) :=
  decidable_of_iff (cs.all (!isMark ·) = true) (by simp [Unmarked])

theorem isMark_eq_false_iff {c : Char} : isMark c = false ↔ c ≠ '?' ∧ c ≠ '#' := by simp [isMark]

theorem unmarked_append {front back : List Char} :
    Unmarked (front ++ back) ↔ Unmarked front ∧ Unmarked back := List.forall_mem_append

theorem takeWhile_append_of_unmarked {cs : List Char} (unmarked : Unmarked cs) (more : List Char) :
    (cs ++ more).takeWhile (!isMark ·) = cs ++ more.takeWhile (!isMark ·) :=
  List.takeWhile_append_of_pos fun c member => by rw [unmarked c member]; rfl

theorem takeWhile_eq_self_iff {cs : List Char} : cs.takeWhile (!isMark ·) = cs ↔ Unmarked cs := by
  rw [List.takeWhile_eq_self_iff]
  simp [Unmarked]

theorem span_append_cons {p : Char → Bool} {front : List Char} (inner : ∀ c ∈ front, p c = true)
    {c : Char} (stop : p c = false) (back : List Char) :
    (front ++ c :: back).span p = (front, c :: back) := by
  rw [List.span_eq_takeWhile_dropWhile, List.takeWhile_append_of_pos inner,
    List.dropWhile_append_of_pos inner]
  simp [stop]

theorem takeWhile_append_stop {p : Char → Bool} {c : Char} (stop : p c = false) (cs back : List Char) :
    (cs ++ c :: back).takeWhile p = cs.takeWhile p := by
  induction cs with
  | nil => simp [stop]
  | cons d cs ih => simp only [List.cons_append, List.takeWhile_cons, ih]

theorem dropWhile_append_stop {p : Char → Bool} {c : Char} (stop : p c = false) (cs back : List Char) :
    (cs ++ c :: back).dropWhile p = cs.dropWhile p ++ c :: back := by
  induction cs with
  | nil => simp [stop]
  | cons d cs ih =>
    simp only [List.cons_append, List.dropWhile_cons, ih]
    split <;> rfl

theorem span_of_all {p : Char → Bool} {cs : List Char} (inner : ∀ c ∈ cs, p c = true) :
    cs.span p = (cs, []) := by
  rw [List.span_eq_takeWhile_dropWhile, List.takeWhile_eq_self_iff.mpr inner,
    List.dropWhile_eq_nil_iff.mpr inner]

theorem exists_first_or_all (p : Char → Bool) (cs : List Char) :
    (∀ c ∈ cs, p c = true) ∨
      ∃ front c back, cs = front ++ c :: back ∧ (∀ d ∈ front, p d = true) ∧ p c = false := by
  cases dropped : cs.dropWhile p with
  | nil => exact .inl (List.dropWhile_eq_nil_iff.mp dropped)
  | cons c back =>
    have stop := List.head?_dropWhile_not p cs
    rw [dropped] at stop
    refine .inr ⟨cs.takeWhile p, c, back, ?_, List.all_eq_true.mp List.all_takeWhile, by simpa using stop⟩
    rw [← dropped, List.takeWhile_append_dropWhile]

/-- The scheme does not depend on what follows its colon. -/
theorem splitScheme_eq_some {cs scheme rest : List Char} (split : splitScheme cs = some (scheme, rest)) :
    ∃ front, cs = front ++ ':' :: rest ∧
      ∀ more, splitScheme (front ++ ':' :: more) = some (scheme, more) := by
  rcases exists_first_or_all (· != ':') cs with all | ⟨front, c, back, rfl, inner, stop⟩
  · rw [splitScheme, span_of_all all] at split
    simp at split
  · obtain rfl : c = ':' := by simpa using stop
    rw [splitScheme, span_append_cons inner stop] at split
    cases front with
    | nil => simp at split
    | cons first front =>
      simp only [Option.ite_none_right_eq_some, Option.some.injEq, Prod.mk.injEq] at split
      obtain ⟨letters, rfl, rfl⟩ := split
      refine ⟨first :: front, rfl, fun more => ?_⟩
      rw [splitScheme, span_append_cons inner stop]
      simp only [letters, if_true]

theorem resolveDots_append (done front : List (List Char)) : ∃ done', ∀ rest, rest ≠ [] →
    resolveDots done (front ++ rest) = resolveDots done' rest := by
  induction front generalizing done with
  | nil => exact ⟨done, fun _ _ => rfl⟩
  | cons segment front ih =>
    obtain ⟨done', later⟩ := ih (if isDoubleDot segment then done.drop 1
      else if isDot segment then done else segment :: done)
    refine ⟨done', fun rest some => ?_⟩
    have more : (front ++ rest).isEmpty = false := by simp [some]
    rw [← later rest some, List.cons_append, resolveDots]
    simp only [more, Bool.false_eq_true, if_false]
    split
    · rfl
    · split <;> rfl

structure Segment (cs : List Char) : Prop where
  slash : '/' ∉ cs
  backslash : '\\' ∉ cs
  dot : isDot cs = false
  dots : isDoubleDot cs = false

/-- Only a letter is changed, into a letter. -/
theorem eq_of_toLower_eq {c d : Char} (same : c.toLower = d) (small : d.toNat < 97) : c = d := by
  by_cases upper : c.val ≥ 'A'.val ∧ c.val ≤ 'Z'.val
  · have shifted : c.toLower.val = c.val + 32 := congrArg Char.val (dif_pos upper)
    have low : 65 ≤ c.val.toNat := upper.1
    have high : c.val.toNat ≤ 90 := upper.2
    have sum : c.val.toNat + 32 < 2 ^ 32 := by omega
    have value : d.toNat = c.val.toNat + 32 := by
      rw [← same, Char.toNat, shifted, UInt32.toNat_add]
      exact Nat.mod_eq_of_lt sum
    omega
  · exact (dif_neg upper).symm.trans same

theorem percent_not_mem_map_toLower {cs : List Char} (unsigned : '%' ∉ cs) :
    '%' ∉ cs.map Char.toLower := by
  rw [List.mem_map]
  rintro ⟨c, member, same⟩
  exact unsigned (eq_of_toLower_eq same (by decide) ▸ member)

theorem isDot_eq_false {cs : List Char} (unsigned : '%' ∉ cs) (other : cs ≠ ['.']) :
    isDot cs = false := by
  have code : cs.map Char.toLower ≠ ['%', '2', 'e'] := by
    intro same
    exact percent_not_mem_map_toLower unsigned (same ▸ List.mem_cons_self)
  simp [isDot, other, code]

theorem isDoubleDot_eq_false {cs : List Char} (unsigned : '%' ∉ cs) (other : cs ≠ ['.', '.']) :
    isDoubleDot cs = false := by
  have unsigned' := percent_not_mem_map_toLower unsigned
  have dots : cs.map Char.toLower ≠ ['.', '.'] := by
    intro same
    obtain ⟨a, as, rfl, first, same⟩ := List.map_eq_cons_iff.mp same
    obtain ⟨b, bs, rfl, second, same⟩ := List.map_eq_cons_iff.mp same
    obtain rfl := List.map_eq_nil_iff.mp same
    rw [eq_of_toLower_eq first (by decide), eq_of_toLower_eq second (by decide)] at other
    exact other rfl
  generalize lower : cs.map Char.toLower = ds at unsigned' dots
  rw [← Bool.not_eq_true, isDoubleDot, lower, List.contains_iff_mem]
  intro member
  simp only [List.mem_cons, List.not_mem_nil, or_false, List.cons_append, List.nil_append] at member
  rcases member with rfl | rfl | rfl | rfl
  · exact dots rfl
  all_goals exact unsigned' (by decide)

theorem Segment.of_unsigned {cs : List Char} (unsigned : '%' ∉ cs) (slash : '/' ∉ cs)
    (backslash : '\\' ∉ cs) (dot : cs ≠ ['.']) (dots : cs ≠ ['.', '.']) : Segment cs :=
  ⟨slash, backslash, isDot_eq_false unsigned dot, isDoubleDot_eq_false unsigned dots⟩

theorem Segment.inner {cs : List Char} (segment : Segment cs) :
    ∀ c ∈ cs, (c == '/' || c == '\\') = false := by
  intro c member
  have slash : c ≠ '/' := fun same => segment.slash (same ▸ member)
  have backslash : c ≠ '\\' := fun same => segment.backslash (same ▸ member)
  simp [slash, backslash]

/-- The path with two segments at its end: what stands before them does not depend on them. -/
theorem normalPath_segments (cs : List Char) : ∃ front, ∀ a b, Segment a → Segment b →
    normalPath (cs ++ '/' :: (a ++ '/' :: b)) =
      front ++ (escape reservedInPath a ++ '/' :: escape reservedInPath b) := by
  obtain ⟨parts, split⟩ : ∃ parts, ∀ back, pieces (fun c => c == '/' || c == '\\')
      ((cs ++ '/' :: back).drop 1) = parts ++ pieces (fun c => c == '/' || c == '\\') back := by
    cases cs with
    | nil => exact ⟨[], fun back => rfl⟩
    | cons first cs => exact ⟨_, fun back => pieces_append_sep rfl cs back⟩
  obtain ⟨done, resolved⟩ := resolveDots_append [] parts
  refine ⟨'/' :: join ['/'] (done.reverse.map (escape reservedInPath) ++ [[]]), fun a b ha hb => ?_⟩
  have ends : pieces (fun c => c == '/' || c == '\\') (a ++ '/' :: b) = [a, b] := by
    rw [pieces_append_sep rfl, pieces_of_all ha.inner, pieces_of_all hb.inner, List.singleton_append]
  have kept : resolveDots done [a, b] = done.reverse ++ [a, b] := by
    simp [resolveDots, ha.dot, ha.dots, hb.dot, hb.dots]
  have joined (front : List (List Char)) (x y : List Char) :
      join ['/'] (front ++ [x, y]) = join ['/'] (front ++ [[]]) ++ (x ++ '/' :: y) := by
    rw [List.append_cons front x [y], join_append ['/'] (by simp) (List.cons_ne_nil _ _),
      ← List.nil_append x, join_last_append]
    simp [join]
  rw [normalPath, split, ends, resolved _ (by simp), kept, List.map_append, List.cons_append]
  exact congrArg ('/' :: ·) (joined _ _ _)

def isOuter (c : Char) : Bool := c.toNat ≤ 32

def isKept (c : Char) : Bool := !(c == '\t' || c == '\n' || c == '\r')

theorem proper_eq (s : String) : proper s =
    (((s.toList.dropWhile isOuter).reverse.dropWhile isOuter).reverse).filter isKept := rfl

def properFront (cs : List Char) : List Char := (cs.dropWhile isOuter).filter isKept

theorem proper_append {url : String} {cs more : List Char} {first last : Char}
    (text : url.toList = cs ++ first :: (more ++ [last])) (starts : isOuter first = false)
    (ends : isOuter last = false) (kept : ∀ c ∈ first :: (more ++ [last]), isKept c = true) :
    proper url = properFront cs ++ first :: (more ++ [last]) := by
  have back (ds : List Char) : ((ds ++ [last]).reverse.dropWhile isOuter).reverse = ds ++ [last] := by
    rw [List.reverse_concat, List.dropWhile_cons_of_neg (by simp [ends]), ← List.reverse_concat,
      List.reverse_reverse]
  have whole : cs.dropWhile isOuter ++ first :: (more ++ [last]) =
      (cs.dropWhile isOuter ++ first :: more) ++ [last] := by simp
  rw [proper_eq, text, dropWhile_append_stop starts, whole, back, ← whole, List.filter_append, List.filter_eq_self.mpr kept,
    properFront]

theorem exists_properFront (s : String) : ∃ blanks, properFront s.toList = proper s ++ blanks := by
  have front : ((s.toList.dropWhile isOuter).reverse.dropWhile isOuter).reverse <+:
      s.toList.dropWhile isOuter := by
    rw [← List.reverse_suffix, List.reverse_reverse]
    exact List.dropWhile_suffix _
  obtain ⟨blanks, whole⟩ := front.filter isKept
  exact ⟨blanks, whole.symm⟩

def isSlash (c : Char) : Bool := c == '/' || c == '\\'

def inHost (c : Char) : Bool := !(c == '/' || c == '\\' || c == '?' || c == '#')

def isWeb (scheme : List Char) : Bool := scheme == ['h', 't', 't', 'p'] || scheme == ['h', 't', 't', 'p', 's']

theorem parse?_eq (s : String) : parse? s = (splitScheme (proper s)).bind fun (scheme, rest) =>
    if isWeb scheme = true then
      (normalHost scheme ((rest.dropWhile isSlash).takeWhile inHost)).map fun host =>
        .web (String.ofList (scheme ++ [':', '/', '/'] ++ host ++
          normalTail ((rest.dropWhile isSlash).dropWhile inHost)))
    else some (.other (String.ofList (scheme ++ [':'] ++ rest))) := by
  rw [parse?, Option.bind_eq_bind]
  congr
  funext ⟨scheme, rest⟩
  simp only [List.span_eq_takeWhile_dropWhile, Option.map_eq_bind]
  rfl

theorem normalHost_nil (scheme : List Char) : normalHost scheme [] = none := rfl

theorem exists_split_of_parse? {s text : String} (usable : parse? s = some (.web text)) :
    ∃ scheme rest, splitScheme (proper s) = some (scheme, rest) ∧ isWeb scheme = true ∧
      rest.dropWhile isSlash ≠ [] := by
  rw [parse?_eq, Option.bind_eq_some_iff] at usable
  obtain ⟨⟨scheme, rest⟩, split, usable⟩ := usable
  by_cases web : isWeb scheme = true
  · refine ⟨scheme, rest, split, web, fun empty => ?_⟩
    simp [web, empty, normalHost_nil] at usable
  · simp [web] at usable

theorem normalTail_of_unmarked {cs : List Char} (unmarked : Unmarked cs) (some : cs ≠ []) :
    normalTail cs = normalPath cs := by
  have noHash : ∀ c ∈ cs, (c != '#') = true := fun c member => by
    simpa using (isMark_eq_false_iff.mp (unmarked c member)).2
  have noQuestion : ∀ c ∈ cs, (c != '?') = true := fun c member => by
    simpa using (isMark_eq_false_iff.mp (unmarked c member)).1
  simp only [normalTail, span_of_all noHash, span_of_all noQuestion]
  simp [some]

/-- A text that a URL keeps as it is in a segment of its path, up to escapes. -/
structure Sendable (cs : List Char) : Prop where
  segment : Segment cs
  unmarked : Unmarked cs
  kept : ∀ c ∈ cs, isKept c = true

theorem forall_mem_segments {P : Char → Prop} {a b : List Char} (slash : P '/') (ha : ∀ c ∈ a, P c)
    (hb : ∀ c ∈ b, P c) : ∀ c ∈ '/' :: (a ++ '/' :: b), P c := by
  simp only [List.forall_mem_cons, List.forall_mem_append]
  exact ⟨slash, ha, slash, hb⟩

/-- With two segments behind a usable URL, the request ends in the segments, escaped, and what stands
before them is the same for all. It may be that there is no request at all, as with blanks behind the
host. -/
theorem parse?_segments {s text : String} (usable : parse? s = some (.web text))
    (bare : Unmarked s.toList) : ∃ front? : Option (List Char), ∀ (url : String) (a b : List Char)
      (last : Char), url.toList = s.toList ++ '/' :: (a ++ '/' :: (b ++ [last])) → Sendable a →
      Sendable (b ++ [last]) → isOuter last = false →
      parse? url = front?.map fun front => .web (String.ofList
        (front ++ (escape reservedInPath a ++ '/' :: escape reservedInPath (b ++ [last])))) := by
  obtain ⟨scheme, rest, split, web, some⟩ := exists_split_of_parse? usable
  obtain ⟨blanks, whole⟩ := exists_properFront s
  obtain ⟨front, text, again⟩ := splitScheme_eq_some split
  obtain ⟨path, segments⟩ := normalPath_segments ((rest.dropWhile isSlash ++ blanks).dropWhile inHost)
  -- Behind the host there is path alone, since nothing in front of the segments ends one.
  have free : Unmarked ((rest.dropWhile isSlash ++ blanks).dropWhile inHost) := by
    intro c member
    have inside : c ∈ properFront s.toList := by
      rw [whole, text, List.append_assoc, List.cons_append]
      refine List.mem_append_right _ (List.mem_cons_of_mem _ ?_)
      exact ((List.dropWhile_suffix isSlash).sublist.append_right _).subset
        ((List.dropWhile_suffix _).subset member)
    exact bare c ((List.dropWhile_suffix _).subset (List.mem_filter.mp inside).1)
  refine ⟨(normalHost scheme ((rest.dropWhile isSlash ++ blanks).takeWhile inHost)).map fun host =>
    scheme ++ [':', '/', '/'] ++ host ++ path, fun url a b last toList sendable file ends => ?_⟩
  have tail : '/' :: (a ++ '/' :: (b ++ [last])) = '/' :: ((a ++ '/' :: b) ++ [last]) := by simp
  have kept : ∀ c ∈ '/' :: ((a ++ '/' :: b) ++ [last]), isKept c = true :=
    tail ▸ forall_mem_segments rfl sendable.kept file.kept
  have read : proper url = front ++ ':' :: (rest ++ blanks ++ '/' :: (a ++ '/' :: (b ++ [last]))) := by
    rw [tail] at toList ⊢
    rw [proper_append toList rfl ends kept, whole, text]
    simp
  have behind : (rest ++ blanks ++ '/' :: (a ++ '/' :: (b ++ [last]))).dropWhile isSlash =
      rest.dropWhile isSlash ++ blanks ++ '/' :: (a ++ '/' :: (b ++ [last])) := by
    rw [List.append_assoc, List.dropWhile_append, if_neg (by simpa using some), List.append_assoc]
  have marks : Unmarked ('/' :: (a ++ '/' :: (b ++ [last]))) :=
    forall_mem_segments rfl sendable.unmarked file.unmarked
  rw [parse?_eq, read, again, Option.bind_some]
  simp only [web, if_true, behind]
  rw [takeWhile_append_stop rfl, dropWhile_append_stop rfl,
    normalTail_of_unmarked (unmarked_append.mpr ⟨free, marks⟩) (by simp),
    segments _ _ sendable.segment file.segment, Option.map_map]
  simp only [Function.comp_def, List.append_assoc]

end PuzzlePrep.Url

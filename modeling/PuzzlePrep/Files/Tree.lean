import PuzzlePrep.Table.Basic

/-!
Trees of directories and files, without symbolic links and without permissions: a file says only whether
it can be run as a program. A table file keeps columns and rows, and no bytes.
-/

namespace PuzzlePrep

abbrev Location := List String

/-- What a file holds: plain bytes or a table. A table file keeps rows, not batches. -/
inductive Content
  | bytes (data : ByteArray)
  | table (schema : Schema) (rows : List Row)

inductive Entry
  | directory
  | file (content : Content) (executable : Bool)

structure Tree where
  workdir : Location
  entries : List (Location × Entry)

namespace Content

def empty : Content := .bytes ByteArray.empty

def ofText (s : String) : Content := .bytes s.toUTF8

def ofTable (t : Table) : Content := .table t.schema t.rows

def size? : Content → Option Nat
  | .bytes data => some data.size
  | .table .. => none

def text? : Content → Option String
  | .bytes data => String.fromUTF8? data
  | .table .. => none

def table? : Content → Option Table
  | .table schema rows => some ⟨schema, Table.batchesOf rows⟩
  | .bytes _ => none

end Content

namespace Entry

def isDirectory : Entry → Bool
  | .directory => true
  | .file .. => false

end Entry

namespace Tree

/-- What lies at a location. The root is always a directory. -/
def get? (t : Tree) (l : Location) : Option Entry :=
  if l = [] then some .directory else t.entries.lookup l

def put (t : Tree) (l : Location) (e : Entry) : Tree :=
  { t with entries := (l, e) :: t.entries.filter (·.1 != l) }

def drop (t : Tree) (l : Location) : Tree :=
  { t with entries := t.entries.filter (·.1 != l) }

def prune (t : Tree) (l : Location) : Tree :=
  { t with entries := t.entries.filter fun (m, _) => !l.isPrefixOf m }

theorem lookup_filter_ne (entries : List (Location × Entry)) {l m : Location} (h : m ≠ l) :
    (entries.filter (·.1 != l)).lookup m = entries.lookup m := by
  induction entries with
  | nil => rfl
  | cons first rest ih =>
    obtain ⟨k, e⟩ := first
    by_cases hk : k = l
    · subst hk
      have : (m == k) = false := by simpa using h
      simp [List.lookup_cons, this, ih]
    · by_cases hm : m = k
      · subst hm
        simp [hk]
      · have : (m == k) = false := by simpa using hm
        simp [hk, List.lookup_cons, this, ih]

theorem lookup_filter_self (entries : List (Location × Entry)) (l : Location) :
    (entries.filter (·.1 != l)).lookup l = none := by
  induction entries with
  | nil => rfl
  | cons first rest ih =>
    obtain ⟨k, e⟩ := first
    by_cases hk : k = l
    · simp [hk, ih]
    · have : (l == k) = false := by simpa using Ne.symm hk
      simp [hk, List.lookup_cons, this, ih]

theorem get?_put (t : Tree) {l : Location} (e : Entry) (hl : l ≠ []) (m : Location) :
    (t.put l e).get? m = if m = l then some e else t.get? m := by
  by_cases hm : m = l
  · subst hm
    simp [get?, put, hl]
  · have h : (m == l) = false := by simpa using hm
    by_cases hr : m = []
    · subst hr
      simp [get?, hm]
    · simp [get?, put, List.lookup_cons, h, hm, hr, lookup_filter_ne]

theorem get?_drop (t : Tree) {l : Location} (hl : l ≠ []) (m : Location) :
    (t.drop l).get? m = if m = l then none else t.get? m := by
  by_cases hm : m = l
  · subst hm
    simp [get?, drop, hl, lookup_filter_self]
  · by_cases hr : m = []
    · subst hr
      simp [get?, hm]
    · simp [get?, drop, hm, hr, lookup_filter_ne]

end Tree

end PuzzlePrep

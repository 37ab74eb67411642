import PuzzlePrep.Proofs.Table.Rows

namespace PuzzlePrep

def cell? (m : Json.Members) (f : Field) : Option Cell :=
  Cell.ofJson? f.nullable f.type ((m.get? f.name).getD .null)

def storedMember? (m : Json.Members) (f : Field) : Option (Option (String × Json)) :=
  ((cell? m f).bind (Cell.restored? f.type)).map (memberOf? f)

namespace Schema

/-- The object that a file gives back for an object, if it fits and can be read. -/
def stored? (s : Schema) (m : Json.Members) : Option Json.Members :=
  (s.rowOfJson? m).bind s.restoredJson?

theorem rowOfJson?_eq (s : Schema) (m : Json.Members) : s.rowOfJson? m = s.columns.mapM (cell? m) := by
  obtain ⟨columns, notes⟩ := s
  rw [rowOfJson?]
  dsimp only
  induction columns with
  | nil => rfl
  | cons f columns ih =>
    obtain ⟨name, type, nullable⟩ := f
    rw [Fields.ofList, Cell.membersOfJson?, ih, List.mapM_cons]
    change _ = (Cell.ofJson? nullable type ((m.get? name).getD .null)).bind _
    cases Cell.ofJson? nullable type ((m.get? name).getD .null) with
    | none => rfl
    | some c => cases columns.mapM (cell? m) <;> rfl

end Schema

variable (columns : List Field) (cell : Field → Option Cell)

theorem membersRestored?_of_mapM : (columns.mapM cell).bind
    (Cell.membersRestored? (Fields.ofList columns)) =
      columns.mapM fun f => (cell f).bind (Cell.restored? f.type) := by
  induction columns with
  | nil => rfl
  | cons f columns ih =>
    rw [List.mapM_cons, List.mapM_cons, ← ih]
    cases cell f with
    | none => rfl
    | some c =>
      cases columns.mapM cell with
      | none => cases read : Cell.restored? f.type c <;> simp [read]
      | some cells => simp [Cell.membersRestored?, Fields.ofList]

theorem membersJson_of_mapM : (columns.mapM cell).map (Cell.membersJson columns) =
    (columns.mapM fun f => (cell f).map (memberOf? f)).map (List.filterMap id) := by
  induction columns with
  | nil => rfl
  | cons f columns ih =>
    rw [List.mapM_cons, List.mapM_cons]
    cases cell f with
    | none => rfl
    | some c =>
      cases here : columns.mapM cell with
      | none =>
        rw [here] at ih
        have none := Option.map_eq_none_iff.mp ih.symm
        simp [none]
      | some cells =>
        rw [here] at ih
        obtain ⟨members, found, same⟩ := Option.map_eq_some_iff.mp ih.symm
        have first : Cell.membersJson (f :: columns) (c :: cells) =
            (memberOf? f c :: members).filterMap id := by
          rw [membersJson_eq, List.zip_cons_cons, List.filterMap_cons, List.filterMap_cons,
            ← membersJson_eq, same]
          rfl
        simpa [found] using first

theorem Schema.stored?_eq (s : Schema) (m : Json.Members) : s.stored? m =
    ((s.columns.mapM (storedMember? m)).map (List.filterMap id)).map Json.Members.ofList := by
  have members := membersJson_of_mapM s.columns fun f => (cell? m f).bind (Cell.restored? f.type)
  rw [← membersRestored?_of_mapM] at members
  change _ = ((s.columns.mapM fun f => ((cell? m f).bind (Cell.restored? f.type)).map
    (memberOf? f)).map (List.filterMap id)).map Json.Members.ofList
  rw [← members, stored?, rowOfJson?_eq]
  cases s.columns.mapM (cell? m) with
  | none => rfl
  | some row =>
    cases read : Cell.membersRestored? (Fields.ofList s.columns) row <;>
      simp [restoredJson?, read, rowJson]

end PuzzlePrep

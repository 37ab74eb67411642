import PuzzlePrep.Proofs.Table.Union

namespace PuzzlePrep

theorem agree_append_iff {xs ys : List Field} : Agree (xs ++ ys) ↔ Agree xs ∧ Agree ys ∧
    ∀ name first second, columnType? xs name = some first → columnType? ys name = some second →
      first = second := by
  constructor
  · intro agree
    refine ⟨agree.of_subset (by simp), agree.of_subset (by simp), ?_⟩
    intro name first second left right
    obtain ⟨f, hf, rfl, rfl⟩ := mem_of_columnType? left
    obtain ⟨g, hg, same, rfl⟩ := mem_of_columnType? right
    exact agree f (by simp [hf]) g (by simp [hg]) same.symm
  · rintro ⟨left, right, between⟩ f hf g hg same
    rcases List.mem_append.mp hf with hf | hf <;> rcases List.mem_append.mp hg with hg | hg
    · exact left f hf g hg same
    · exact between f.name _ _ (left.columnType? hf) (same ▸ right.columnType? hg)
    · exact (between g.name _ _ (left.columnType? hg) (same ▸ right.columnType? hf)).symm
    · exact right f hf g hg same

theorem agree_of_nodup {fields : List Field} (apart : (fields.map Field.name).Nodup) : Agree fields :=
  agree_iff_columnType?.mpr fun _ member => columnType?_of_mem apart member

namespace Schema

section Stages

variable {xs ys : List Schema}

theorem nodup_united (schemas : List Schema) : ((united schemas).map Field.name).Nodup := by
  rw [names_united]
  exact nodup_eraseDups _

theorem columnType?_united (apart : ∀ s ∈ xs, s.names.Nodup) (name : String) :
    columnType? (united xs) name = columnType? (xs.flatMap columns) name := by
  rw [← relax_gathered apart, columnType?_relax, columnType?_gathered]

/-- What all schemas require is a column of theirs that may not be null. -/
theorem required_united (some : xs ≠ []) (notes : List (String × String)) (name : String) :
    required [⟨united xs, notes⟩] name = required xs name := by
  rw [Bool.eq_iff_iff, required_iff, List.forall_mem_singleton]
  constructor
  · rintro ⟨f, member, rfl, never⟩
    rwa [(mem_united member).1, nullable_columnOf_eq_false_iff, ← required_iff] at never
  · intro all
    obtain ⟨s, here⟩ := List.exists_mem_of_ne_nil xs some
    obtain ⟨g, inside, rfl, -⟩ := required_iff.mp all s here
    have named : g.name ∈ xs.flatMap names :=
      List.mem_flatMap.mpr ⟨s, here, List.mem_map_of_mem inside⟩
    exact ⟨columnOf xs g.name, List.mem_map_of_mem (List.mem_eraseDups.mpr named), rfl,
      nullable_columnOf_eq_false_iff.mpr (required_iff.mp all)⟩

theorem agree_united_iff (apart : ∀ s ∈ xs ++ ys, s.names.Nodup) (notes notes' : List (String × String)) :
    Agree ((xs ++ ys).flatMap columns) ↔
      Agree (xs.flatMap columns) ∧ Agree (ys.flatMap columns) ∧
        Agree ([⟨united xs, notes⟩, ⟨united ys, notes'⟩].flatMap columns) := by
  obtain ⟨left, right⟩ := List.forall_mem_append.mp apart
  have both : [Schema.mk (united xs) notes, ⟨united ys, notes'⟩].flatMap columns =
      united xs ++ united ys := by simp
  simp only [both, List.flatMap_append, agree_append_iff, columnType?_united left,
    columnType?_united right, agree_of_nodup (nodup_united _), true_and]

theorem columnOf_united (apart : ∀ s ∈ xs ++ ys, s.names.Nodup) (hx : xs ≠ []) (hy : ys ≠ [])
    (notes notes' : List (String × String)) (name : String) :
    columnOf [⟨united xs, notes⟩, ⟨united ys, notes'⟩] name = columnOf (xs ++ ys) name := by
  obtain ⟨left, right⟩ := List.forall_mem_append.mp apart
  have type : columnType? ([Schema.mk (united xs) notes, ⟨united ys, notes'⟩].flatMap columns) name =
      columnType? ((xs ++ ys).flatMap columns) name := by
    rw [List.flatMap_append, columnType?_append, ← columnType?_united left,
      ← columnType?_united right, ← columnType?_append]
    simp
  have flag : required [⟨united xs, notes⟩, ⟨united ys, notes'⟩] name = required (xs ++ ys) name := by
    have apart : required [⟨united xs, notes⟩, ⟨united ys, notes'⟩] name =
        (required [⟨united xs, notes⟩] name && required [⟨united ys, notes'⟩] name) := by
      simp [required]
    rw [apart, required_united hx, required_united hy]
    exact List.all_append.symm
  rw [columnOf, type, flag]
  rfl

theorem united_united (apart : ∀ s ∈ xs ++ ys, s.names.Nodup) (hx : xs ≠ []) (hy : ys ≠ [])
    (notes notes' : List (String × String)) :
    united [⟨united xs, notes⟩, ⟨united ys, notes'⟩] = united (xs ++ ys) := by
  have order : ([Schema.mk (united xs) notes, ⟨united ys, notes'⟩].flatMap names).eraseDups =
      ((xs ++ ys).flatMap names).eraseDups := by
    have both : [Schema.mk (united xs) notes, ⟨united ys, notes'⟩].flatMap names =
        (united xs).map Field.name ++ (united ys).map Field.name := by simp [names]
    rw [both, names_united, names_united, eraseDups_append_eraseDups, List.flatMap_append]
  rw [united, order]
  exact List.map_congr_left fun name _ => columnOf_united apart hx hy notes notes' name

end Stages

end Schema

namespace Table

section Stages

variable {xs ys : List Table}

theorem cellOf_conform {s : Schema} {columns : List Field} {name : String}
    (there : name ∈ columns.map Field.name) (notes : List (String × String)) (r : Row) :
    cellOf ⟨columns, notes⟩ name (conform s columns r) = cellOf s name r := by
  cases found : columns.findIdx? (·.name == name) with
  | none =>
    obtain ⟨f, member, rfl⟩ := List.mem_map.mp there
    simpa using List.findIdx?_eq_none_iff.mp found f member
  | some i =>
    obtain ⟨inside, same, -⟩ := List.findIdx?_eq_some_iff_getElem.mp found
    rw [beq_iff_eq] at same
    rw [cellOf, found]
    simp [conform, inside, same]

theorem conform_conform {s : Schema} {columns : List Field}
    (inside : ∀ name ∈ s.names, name ∈ columns.map Field.name) (notes : List (String × String))
    (wider : List Field) (r : Row) :
    conform ⟨columns, notes⟩ wider (conform s columns r) = conform s wider r := by
  refine List.map_congr_left fun f _ => ?_
  by_cases there : f.name ∈ columns.map Field.name
  · exact cellOf_conform there notes r
  · rw [cellOf_of_missing there, cellOf_of_missing fun known => there (inside _ known)]

theorem wellFormed_stacked (wellFormed : ∀ t ∈ xs, t.WellFormed)
    (agree : Agree ((xs.map Table.schema).flatMap Schema.columns)) : (stacked xs).WellFormed := by
  have rows : (stacked xs).rows = xs.flatMap fun t =>
      t.rows.map (conform t.schema (Schema.united (xs.map Table.schema))) := rows_flatMap _ _
  refine ⟨Schema.nodup_united _, fun r row => ?_, fun r row => ?_⟩ <;> rw [rows] at row <;>
    obtain ⟨t, member, inside⟩ := List.mem_flatMap.mp row <;>
    obtain ⟨source, here, rfl⟩ := List.mem_map.mp inside
  · exact List.length_map _
  · exact fits_stacked wellFormed agree member here

/-- Each row goes under the wider columns as it would have without the first stage. -/
theorem conform_stacked (tables : List Table) (wider : List Field) :
    ((stacked tables).batches.map fun b => b.map (conform (stacked tables).schema wider)) =
      tables.flatMap fun t => t.batches.map fun b => b.map (conform t.schema wider) := by
  rw [stacked, List.map_flatMap]
  refine List.flatMap_congr fun t member => ?_
  have inside : ∀ name ∈ t.schema.names,
      name ∈ (Schema.united (tables.map Table.schema)).map Field.name := by
    intro name known
    rw [Schema.names_united, List.mem_eraseDups]
    exact List.mem_flatMap.mpr ⟨t.schema, List.mem_map_of_mem member, known⟩
  rw [List.map_map]
  refine List.map_congr_left fun b _ => ?_
  rw [Function.comp_apply, List.map_map]
  exact List.map_congr_left fun r _ => conform_conform inside [] wider r

theorem stacked_stacked (apart : ∀ t ∈ xs ++ ys, t.schema.names.Nodup) (hx : xs ≠ [])
    (hy : ys ≠ []) : stacked [stacked xs, stacked ys] = stacked (xs ++ ys) := by
  have columns : Schema.united ([stacked xs, stacked ys].map Table.schema) =
      Schema.united ((xs ++ ys).map Table.schema) := by
    rw [List.map_append]
    refine Schema.united_united ?_ (by simpa using hx) (by simpa using hy) [] []
    rw [← List.map_append]
    exact List.forall_mem_map.mpr apart
  rw [stacked, columns, List.flatMap_cons, List.flatMap_cons, List.flatMap_nil, List.append_nil,
    conform_stacked, conform_stacked, ← List.flatMap_append]
  rfl

theorem concat_stacked_iff (wellFormed : ∀ t ∈ xs ++ ys, t.WellFormed)
    (some : ∃ t ∈ xs, t.schema.columns ≠ []) (hy : ys ≠ [])
    (agreeX : Agree ((xs.map Table.schema).flatMap Schema.columns))
    (agreeY : Agree ((ys.map Table.schema).flatMap Schema.columns)) {merged : Table} :
    concat [stacked xs, stacked ys] = .ok merged ↔
      Agree ([(stacked xs).schema, (stacked ys).schema].flatMap Schema.columns) ∧
        stacked (xs ++ ys) = merged := by
  obtain ⟨left, right⟩ := List.forall_mem_append.mp wellFormed
  have both : ∀ t ∈ [stacked xs, stacked ys], t.WellFormed := by
    simp [wellFormed_stacked left agreeX, wellFormed_stacked right agreeY]
  have hx : xs ≠ [] := by
    obtain ⟨t, member, -⟩ := some
    exact List.ne_nil_of_mem member
  rw [concat_eq_ok_iff both ⟨_, List.mem_cons_self, united_ne_nil some⟩,
    stacked_stacked (fun t member => (wellFormed t member).apart) hx hy]
  rfl

/-- Lists of tables can be put together all at once just if each can on its own and what comes of them
can again, and the table is the same. -/
theorem concat_in_stages (wellFormed : ∀ t ∈ xs ++ ys, t.WellFormed)
    (columns : ∀ t ∈ xs ++ ys, t.schema.columns ≠ []) (hx : xs ≠ []) (hy : ys ≠ []) (merged : Table) :
    concat (xs ++ ys) = .ok merged ↔
      ∃ x y, concat xs = .ok x ∧ concat ys = .ok y ∧ concat [x, y] = .ok merged := by
  obtain ⟨left, right⟩ := List.forall_mem_append.mp wellFormed
  have some {zs : List Table} (hz : zs ≠ []) (inside : zs ⊆ xs ++ ys) :
      ∃ t ∈ zs, t.schema.columns ≠ [] := by
    obtain ⟨t, member⟩ := List.exists_mem_of_ne_nil zs hz
    exact ⟨t, member, columns t (inside member)⟩
  have someX := some hx (List.subset_append_left xs ys)
  have someY := some hy (List.subset_append_right xs ys)
  have schemas : ∀ s ∈ xs.map Table.schema ++ ys.map Table.schema, s.names.Nodup := by
    rw [← List.map_append]
    exact List.forall_mem_map.mpr fun t member => (wellFormed t member).apart
  rw [concat_eq_ok_iff wellFormed (some (List.append_ne_nil_of_left_ne_nil hx ys) (List.Subset.refl _)),
    List.map_append, Schema.agree_united_iff schemas [] []]
  simp only [concat_eq_ok_iff left someX, concat_eq_ok_iff right someY]
  constructor
  · rintro ⟨⟨agreeX, agreeY, agree⟩, rfl⟩
    exact ⟨stacked xs, stacked ys, ⟨agreeX, rfl⟩, ⟨agreeY, rfl⟩,
      (concat_stacked_iff wellFormed someX hy agreeX agreeY).mpr ⟨agree, rfl⟩⟩
  · rintro ⟨_, _, ⟨agreeX, rfl⟩, ⟨agreeY, rfl⟩, both⟩
    obtain ⟨agree, same⟩ := (concat_stacked_iff wellFormed someX hy agreeX agreeY).mp both
    exact ⟨⟨agreeX, agreeY, agree⟩, same⟩

/-- Two tables and one. `id` is missing in the second and so may be null from the first stage on;
`quiz` may not be null in any; `tag` comes with the last. -/
theorem concat_in_stages_of_three :
    ∃ x y,
      concat
        [⟨⟨[.mk "id" .int64 false, .mk "quiz" .utf8 false], [("origin", "3ppl")]⟩,
            [[[.whole 0, .text "Who?"]], [[.whole 1, .text ""]]]⟩,
          ⟨⟨[.mk "quiz" .utf8 false], []⟩, [[[.text "When?"]]]⟩] = .ok x ∧
      concat [⟨⟨[.mk "tag" .bool false, .mk "quiz" .utf8 false, .mk "id" .int64 false], []⟩,
        [[[.bool true, .text "Why?", .whole 7]]]⟩] = .ok y ∧
      concat [x, y] = .ok
        ⟨⟨[.mk "id" .int64 true, .mk "quiz" .utf8 false, .mk "tag" .bool true], []⟩,
          [[[.whole 0, .text "Who?", .null]], [[.whole 1, .text "", .null]],
            [[.null, .text "When?", .null]], [[.whole 7, .text "Why?", .bool true]]]⟩ :=
  (concat_in_stages (by decide +kernel) (by decide +kernel) (by decide) (by decide) _).mp rfl

end Stages

end Table

end PuzzlePrep

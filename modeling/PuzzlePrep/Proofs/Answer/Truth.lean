import PuzzlePrep.Answer.Truth
import PuzzlePrep.Proofs.Answer.Statement
import PuzzlePrep.Proofs.Distinct
import PuzzlePrep.Proofs.Text.Lines

namespace PuzzlePrep

open Text

theorem isName_of_nameWord? {behind : Bool} {cs name rest : List Char}
    (h : nameWord? behind cs = some (name, rest)) : IsName name := by
  induction cs generalizing behind with
  | nil => simp [nameWord?] at h
  | cons c cs ih =>
    rw [nameWord?] at h
    split at h
    · rename_i letters rest' found
      split at h
      · exact ih h
      · cases h
        cases behind with
        | true => cases found
        | false =>
          obtain ⟨-, some, all, -⟩ := spanLetters?_eq_some_iff.mp found
          exact ⟨some, all⟩
    · exact ih h

theorem isName_of_identityOf? {line : List Char} {name : String} {role : Role}
    (h : identityOf? line = some (name, role)) : IsName name.toList := by
  simp only [identityOf?, Option.bind_eq_bind, Option.bind_eq_some_iff, Prod.exists] at h
  obtain ⟨word, rest, found, role', -, same⟩ := h
  cases same
  rw [String.toList_ofList]
  exact isName_of_nameWord? found

theorem map_fst_note (name : String) (role : Role) (known : Identities) :
    (known.note name role).map Prod.fst =
      if name ∈ known.map Prod.fst then known.map Prod.fst else known.map Prod.fst ++ [name] := by
  induction known with
  | nil => simp [Identities.note]
  | cons first rest ih =>
    obtain ⟨n, r⟩ := first
    by_cases same : n = name
    · simp [Identities.note, same]
    · have other : name ≠ n := fun h => same h.symm
      simp only [Identities.note, same, if_false, List.map_cons, ih, List.mem_cons, other, false_or]
      split <;> rfl

theorem nodup_note {known : Identities} (name : String) (role : Role)
    (h : (known.map Prod.fst).Nodup) : ((known.note name role).map Prod.fst).Nodup := by
  rw [map_fst_note]
  split
  · exact h
  · rename_i fresh
    rw [← List.concat_eq_append]
    exact List.Nodup.concat fresh h

def Identities.noteAll (known : Identities) (told : Identities) : Identities :=
  told.foldl (fun known (name, role) => known.note name role) known

def toldIn (text : List Char) : Identities := (lines text).filterMap (identityOf? <| trim ·)

theorem trueIdentities_eq (text : List Char) :
    trueIdentities text = Identities.noteAll [] (toldIn (normalizeNewlines text)) := rfl

theorem toldIn_trim (text : List Char) : toldIn (trim text) = toldIn text :=
  filterMap_lines_trim rfl text

theorem nodup_noteAll {known : Identities} (told : Identities) (h : (known.map Prod.fst).Nodup) :
    ((known.noteAll told).map Prod.fst).Nodup := by
  induction told generalizing known with
  | nil => exact h
  | cons first told ih => exact ih (nodup_note first.1 first.2 h)

theorem noteAll_concat (known told : Identities) (x : String × Role) :
    known.noteAll (told ++ [x]) = (known.noteAll told).note x.1 x.2 := by
  rw [Identities.noteAll, List.foldl_append]
  rfl

theorem map_fst_noteAll (told : Identities) :
    (Identities.noteAll [] told).map Prod.fst = (told.map Prod.fst).eraseDups := by
  induction told using List.reverseRecOn with
  | nil => rfl
  | append_singleton told x ih =>
    rw [noteAll_concat, map_fst_note, ih, List.map_append, List.map_singleton, eraseDups_concat]
    simp only [List.mem_eraseDups]

theorem mem_note {known : Identities} (distinct : (known.map Prod.fst).Nodup) {name name' : String}
    {role role' : Role} : (name, role) ∈ known.note name' role' ↔
      if name = name' then role = role' else (name, role) ∈ known := by
  induction known with
  | nil => by_cases same : name = name' <;> simp [Identities.note, same]
  | cons first rest ih =>
    obtain ⟨n, r⟩ := first
    rw [List.map_cons, List.nodup_cons] at distinct
    have away : ∀ role, n = name → (name, role) ∉ rest := by
      rintro role rfl inside
      exact distinct.1 (List.mem_map.mpr ⟨_, inside, rfl⟩)
    by_cases noted : n = name'
    · subst noted
      by_cases same : name = n
      · subst same
        simp [Identities.note, away role rfl]
      · simp [Identities.note, same]
    · rw [Identities.note, if_neg noted, List.mem_cons, ih distinct.2, List.mem_cons]
      by_cases same : name = name'
      · subst same
        simp [Ne.symm noted]
      · simp [same]

/-- Of what is noted about a name the last role stays. -/
theorem mem_noteAll_iff {told : Identities} {name : String} {role : Role} :
    (name, role) ∈ Identities.noteAll [] told ↔ told.reverse.lookup name = some role := by
  induction told using List.reverseRecOn with
  | nil => simp [Identities.noteAll]
  | append_singleton told x ih =>
    rw [noteAll_concat, mem_note (nodup_noteAll told (by simp)), ih, List.reverse_concat,
      List.lookup_cons]
    by_cases same : name = x.1
    · simp [same, eq_comm]
    · have other : (name == x.1) = false := beq_eq_false_iff_ne.mpr same
      rw [if_neg same, other]

theorem nodup_names_trueIdentities (text : List Char) :
    ((trueIdentities text).map Prod.fst).Nodup := nodup_noteAll _ (by simp)

theorem isName_of_trueIdentities (text : List Char) :
    ∀ x ∈ trueIdentities text, IsName x.1.toList := by
  intro x inside
  have member : x.1 ∈ (trueIdentities text).map Prod.fst := List.mem_map_of_mem inside
  rw [trueIdentities_eq, map_fst_noteAll, List.mem_eraseDups] at member
  obtain ⟨y, told, same⟩ := List.mem_map.mp member
  obtain ⟨line, -, read⟩ := List.mem_filterMap.mp told
  rw [← same]
  exact isName_of_identityOf? read

theorem note_of_fresh {known : Identities} {name : String} (fresh : name ∉ known.map Prod.fst)
    (role : Role) : known.note name role = known ++ [(name, role)] := by
  induction known with
  | nil => rfl
  | cons first rest ih =>
    obtain ⟨n, r⟩ := first
    simp only [List.map_cons, List.mem_cons, not_or] at fresh
    rw [Identities.note, if_neg (Ne.symm fresh.1), ih fresh.2]
    rfl

theorem noteAll_of_nodup {known told : Identities}
    (h : ((known ++ told).map Prod.fst).Nodup) : known.noteAll told = known ++ told := by
  induction told generalizing known with
  | nil => rw [List.append_nil]; rfl
  | cons first told ih =>
    have fresh : first.1 ∉ known.map Prod.fst := by
      rw [List.map_append, List.nodup_append] at h
      exact fun inside => h.2.2 _ inside _ (by simp) rfl
    have step : known.noteAll (first :: told) = (known.note first.1 first.2).noteAll told := rfl
    rw [step, note_of_fresh fresh, ih (by rwa [List.append_assoc]), List.append_assoc]
    rfl

end PuzzlePrep

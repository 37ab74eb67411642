import PuzzlePrep.Proofs.Json.Members
import PuzzlePrep.Record.OfRow

namespace PuzzlePrep.Record

def textKeys : List String :=
  ["quiz", "prompt", "cot_head", "cot_repeat_steps", "cot_foot", "solution_text_format",
    "solution_text", "data_source", "ability", "statements"]

def filled : Json → Json
  | .null => .str ""
  | j => j

def filledMessage : Json → Json
  | .obj members => .obj (members.map fun (key, j) => (key, if key = "content" then filled j else j))
  | j => filled j

def filledPrompt : Json → Json
  | .arr (first :: more) => .arr (filledMessage first :: more)
  | j => filledMessage j

def filledSteps : Json → Json
  | .arr items => .arr (items.map filled)
  | j => filled j

/-- What stands under a key, with the empty text for null at every place that a text is read from. -/
def filledAt (key : String) (j : Json) : Json :=
  if key = "prompt" then filledPrompt j
  else if key = "cot_repeat_steps" then filledSteps j
  else if key ∈ textKeys then filled j
  else j

def filledRow (row : Json.Members) : Json.Members := row.map fun (key, j) => (key, filledAt key j)

def Lacks (row : Json.Members) (key : String) : Prop := (row.get? key).all Json.isNull = true

instance (row : Json.Members) (key : String) : Decidable (Lacks row key) :=
  inferInstanceAs (Decidable ((row.get? key).all Json.isNull = true))

def stepsWithoutNulls : Json → Json
  | .arr items => .arr (items.filter (!·.isNull))
  | j => j

/-- The row without the nulls that count as missing. -/
def withoutNulls (row : Json.Members) : Json.Members :=
  (row.filter fun m => !decide (m.1 ∈ textKeys ∧ Lacks row m.1)).map fun (key, j) =>
    (key, if key = "cot_repeat_steps" then stepsWithoutNulls j else j)

def nullMessage : Json → Bool
  | .null => true
  | .obj members => (Json.Members.get? members "content").any Json.isNull
  | _ => false

def nullPrompt : Json → Bool
  | .null => false
  | .arr (first :: _) => nullMessage first
  | j => nullMessage j

/-- What the user asks is read from a null inside the prompt. -/
def AsksNull (row : Json.Members) : Prop :=
  textAt row "quiz" = "" ∧ (row.get? "prompt").any nullPrompt = true

instance : DecidablePred AsksNull := fun row =>
  inferInstanceAs (Decidable (textAt row "quiz" = "" ∧ (row.get? "prompt").any nullPrompt = true))

structure OwnText where
  key : String
  fallback : String
  text : Record → String

def ownTexts : List OwnText :=
  [⟨"data_source", defaultDataSource, dataSource⟩, ⟨"ability", defaultAbility, ability⟩,
    ⟨"solution_text", "", solutionText⟩, ⟨"solution_text_format", "", fun r => r.truth.solution⟩,
    ⟨"statements", "", fun r => r.truth.statements⟩]

section Reading

variable {row row' : Json.Members} {key : String}

theorem textOf_filled (j : Json) : textOf (filled j) = if j.isNull then "" else textOf j := by
  cases j <;> rfl

theorem textOf_of_isNull {j : Json} (null : j.isNull = true) : textOf j = "null" := by
  cases j <;> first | rfl | cases null

theorem isTruthy_filled (j : Json) : isTruthy (filled j) = isTruthy j := by
  cases j <;> rfl

theorem not_isNull_of_isTruthy {j : Json} (truthy : isTruthy j = true) : j.isNull = false := by
  cases j <;> first | rfl | cases truthy

theorem textAt_of_map_filled (same : row'.get? key = (row.get? key).map filled) :
    textAt row' key = textAt row key := by
  rw [textAt, textAt, same]
  rcases row.get? key with - | j
  · rfl
  · cases j <;> rfl

theorem lacks_iff : Lacks row key ↔ row.get? key = none ∨ row.get? key = some .null := by
  rw [Lacks]
  rcases row.get? key with - | j
  · simp
  · cases j <;> simp [Json.isNull]

theorem textAt_of_lacks (lacks : Lacks row key) : textAt row key = "" := by
  rcases lacks_iff.mp lacks with none | null <;> simp only [textAt, *]

theorem textAt_of_get? {j : Json} (there : row.get? key = some j) (filled : j.isNull = false) :
    textAt row key = textOf j := by
  rw [textAt, there]
  cases j <;> first | rfl | cases filled

theorem truthyText_of_lacks (lacks : Lacks row key) : truthyText (row.get? key) = "" := by
  rcases lacks_iff.mp lacks with none | null <;> simp [truthyText, isTruthy, *]

end Reading

section Prompt

def promptText : Option Json → String
  | some (.arr []) => ""
  | some (.arr (first :: _)) => (messageText? first).getD (textOf first)
  | some j => (messageText? j).getD (truthyText (some j))
  | none => ""

theorem question_eq (row : Json.Members) : question row =
    if textAt row "quiz" ≠ "" then textAt row "quiz" else promptText (row.get? "prompt") := rfl

variable {members : Json.Members}

theorem get?_content_filledMessage :
    Json.Members.get? (members.map fun (key, j) => (key, if key = "content" then filled j else j))
      "content" = (members.get? "content").map filled := by
  rw [Json.Members.get?_map fun key j => if key = "content" then filled j else j]
  simp only [if_true]

theorem filledMessage_of_no_content (none : members.get? "content" = none) :
    filledMessage (.obj members) = .obj members := by
  have other : ∀ m ∈ members, m.1 ≠ "content" := by
    rw [Json.Members.get?, Option.map_eq_none_iff, List.find?_eq_none] at none
    exact fun m member same => none m member (by simpa using same)
  rw [filledMessage, List.map_congr_left (g := id), List.map_id]
  intro m member
  simp only [other m member, if_false, id]

theorem nullMessage_obj : nullMessage (.obj members) = (members.get? "content").any Json.isNull := rfl

theorem messageText?_obj :
    messageText? (.obj members) = (members.get? "content").map textOf := rfl

section Fallback

variable (fallback : Json → String)

/-- An object reads as the empty text instead of its null. -/
theorem text_filledMessage_obj :
    (messageText? (filledMessage (.obj members))).getD (fallback (filledMessage (.obj members))) =
      if nullMessage (.obj members) then ""
      else (messageText? (.obj members)).getD (fallback (.obj members)) := by
  rcases content : Json.Members.get? members "content" with - | j
  · rw [filledMessage_of_no_content content, nullMessage_obj, content]
    rfl
  · rw [filledMessage, messageText?_obj, messageText?_obj, nullMessage_obj,
      get?_content_filledMessage, content]
    exact textOf_filled j

theorem text_of_nullMessage_obj (null : nullMessage (.obj members) = true) :
    (messageText? (.obj members)).getD (fallback (.obj members)) = "null" := by
  rw [nullMessage_obj, Option.any_eq_true] at null
  obtain ⟨j, content, null⟩ := null
  rw [messageText?_obj, content]
  exact textOf_of_isNull null

end Fallback

theorem promptText_filledPrompt (j : Json) :
    promptText (some (filledPrompt j)) = if nullPrompt j then "" else promptText (some j) := by
  cases j with
  | obj members => exact text_filledMessage_obj fun j => truthyText (some j)
  | arr items =>
    cases items with
    | nil => rfl
    | cons first more =>
      cases first with
      | obj members => exact text_filledMessage_obj textOf
      | null | bool | num | str | arr => rfl
  | null | bool | num | str => rfl

theorem promptText_of_nullPrompt {j : Json} (null : nullPrompt j = true) :
    promptText (some j) = "null" := by
  cases j with
  | obj members => exact text_of_nullMessage_obj (fun j => truthyText (some j)) null
  | arr items =>
    cases items with
    | nil => cases null
    | cons first more =>
      cases first with
      | obj members => exact text_of_nullMessage_obj textOf null
      | null => rfl
      | bool | num | str | arr => cases null
  | null | bool | num | str => cases null

end Prompt

/-- Two rows of which every text but what the user asks reads the same. -/
structure ReadsAlike (row' row : Json.Members) : Prop where
  text : ∀ key ∈ textKeys, key ≠ "prompt" → key ≠ "cot_repeat_steps" →
    textAt row' key = textAt row key
  steps : textsAt row' "cot_repeat_steps" = textsAt row "cot_repeat_steps"
  statements : truthyText (row'.get? "statements") = truthyText (row.get? "statements")
  names : row'.get? "names" = row.get? "names"
  solution : row'.get? "solution" = row.get? "solution"

variable {row row' : Json.Members} {split : Split} {index : Nat}

def promptOf (question : String) : List Message :=
  [⟨"system", systemPrompt⟩, ⟨"user", String.ofList (cleanPrompt question.toList)⟩]

theorem prompt_ofRow : (ofRow row split index).prompt = promptOf (question row) := by
  simp only [ofRow, promptOf]

theorem ReadsAlike.ofRow_eq (alike : ReadsAlike row' row) : ofRow row' split index =
    { ofRow row split index with prompt := promptOf (question row') } := by
  obtain ⟨text, steps, statements, names, solution⟩ := alike
  simp only [ofRow, promptOf, textOr, explanation, solutionIn, steps, statements, names, solution,
    text "data_source" (by decide) (by decide) (by decide),
    text "cot_head" (by decide) (by decide) (by decide),
    text "cot_foot" (by decide) (by decide) (by decide),
    text "solution_text_format" (by decide) (by decide) (by decide),
    text "solution_text" (by decide) (by decide) (by decide),
    text "ability" (by decide) (by decide) (by decide)]

section Filled

theorem get?_filledRow (row : Json.Members) (key : String) :
    (filledRow row).get? key = (row.get? key).map (filledAt key) :=
  Json.Members.get?_map filledAt row key

theorem textsAt_filledRow (row : Json.Members) :
    textsAt (filledRow row) "cot_repeat_steps" = textsAt row "cot_repeat_steps" := by
  rw [textsAt, textsAt, get?_filledRow]
  rcases row.get? "cot_repeat_steps" with - | j
  · rfl
  · cases j with
    | arr items =>
      -- a null is dropped, and so is the empty text
      show ((items.map filled).filter isTruthy).map textOf = (items.filter isTruthy).map textOf
      rw [List.filter_map, List.map_map, show isTruthy ∘ filled = isTruthy from
        funext isTruthy_filled]
      refine List.map_congr_left fun j member => ?_
      have truthy := not_isNull_of_isTruthy (List.mem_filter.mp member).2
      simp [textOf_filled, truthy]
    | null | bool | num | str | obj => rfl

theorem readsAlike_filledRow (row : Json.Members) : ReadsAlike (filledRow row) row where
  text key member notPrompt notSteps := by
    refine textAt_of_map_filled ?_
    rw [get?_filledRow]
    congr 1
    funext j
    simp only [filledAt, notPrompt, notSteps, member, if_false, if_true]
  steps := textsAt_filledRow row
  statements := by
    rw [get?_filledRow]
    rcases row.get? "statements" with - | j
    · rfl
    · cases j <;> rfl
  names := by
    rw [get?_filledRow]
    exact congrFun Option.map_id _
  solution := by
    rw [get?_filledRow]
    exact congrFun Option.map_id _

theorem question_filledRow (row : Json.Members) :
    question (filledRow row) = if AsksNull row then "" else question row := by
  have quiz : textAt (filledRow row) "quiz" = textAt row "quiz" :=
    (readsAlike_filledRow row).text "quiz" (by decide) (by decide) (by decide)
  rw [question_eq, question_eq, quiz, get?_filledRow]
  by_cases given : textAt row "quiz" = ""
  · rcases prompt : row.get? "prompt" with - | j
    · simp [given, AsksNull, prompt]
    · show (if _ then _ else promptText (some (filledPrompt j))) = _
      simp [given, AsksNull, prompt, promptText_filledPrompt]
  · simp [given, AsksNull]

theorem question_of_asksNull (asks : AsksNull row) : question row = "null" := by
  obtain ⟨quiz, null⟩ := asks
  rw [Option.any_eq_true] at null
  obtain ⟨j, prompt, null⟩ := null
  rw [question_eq, quiz, prompt, promptText_of_nullPrompt null]
  rfl

theorem promptOf_null : promptOf "null" = [⟨"system", systemPrompt⟩, ⟨"user", "null"⟩] := by
  rw [promptOf, show cleanPrompt "null".toList = "null".toList by decide, String.ofList_toList]

theorem promptOf_empty : promptOf "" = [⟨"system", systemPrompt⟩, ⟨"user", ""⟩] := by
  rw [promptOf, show cleanPrompt "".toList = "".toList by decide, String.ofList_toList]

end Filled

section Missing

theorem get?_withoutNulls (row : Json.Members) (key : String) : (withoutNulls row).get? key =
    if key ∈ textKeys ∧ Lacks row key then none
    else (row.get? key).map fun j => if key = "cot_repeat_steps" then stepsWithoutNulls j else j := by
  rw [withoutNulls,
    Json.Members.get?_map fun key j => if key = "cot_repeat_steps" then stepsWithoutNulls j else j,
    Json.Members.get?_filter fun key => !decide (key ∈ textKeys ∧ Lacks row key)]
  by_cases gone : key ∈ textKeys ∧ Lacks row key <;> simp [gone]

theorem get?_withoutNulls_of_other {key : String} (other : key ≠ "cot_repeat_steps")
    (row : Json.Members) : (withoutNulls row).get? key =
      if key ∈ textKeys ∧ Lacks row key then none else row.get? key := by
  rw [get?_withoutNulls]
  simp only [other, if_false, Option.map_id_fun', id]

theorem textsAt_withoutNulls (row : Json.Members) :
    textsAt (withoutNulls row) "cot_repeat_steps" = textsAt row "cot_repeat_steps" := by
  rw [textsAt, textsAt, get?_withoutNulls]
  by_cases gone : "cot_repeat_steps" ∈ textKeys ∧ Lacks row "cot_repeat_steps"
  · rw [if_pos gone]
    rcases lacks_iff.mp gone.2 with none | null <;> simp only [*]
  · rw [if_neg gone]
    rcases row.get? "cot_repeat_steps" with - | j
    · rfl
    · cases j with
      | arr items =>
        show ((items.filter (!·.isNull)).filter isTruthy).map textOf =
          (items.filter isTruthy).map textOf
        rw [List.filter_filter]
        congr 1
        refine List.filter_congr fun j _ => ?_
        cases truthy : isTruthy j with
        | true => simp [not_isNull_of_isTruthy truthy]
        | false => rfl
      | null | bool | num | str | obj => rfl

theorem readsAlike_withoutNulls (row : Json.Members) : ReadsAlike (withoutNulls row) row where
  text key member notPrompt notSteps := by
    by_cases lacks : Lacks row key
    · rw [textAt_of_lacks lacks, textAt_of_lacks]
      rw [Lacks, get?_withoutNulls_of_other notSteps, if_pos ⟨member, lacks⟩]
      rfl
    · simp only [textAt, get?_withoutNulls_of_other notSteps, lacks, and_false, if_false]
  steps := textsAt_withoutNulls row
  statements := by
    rw [get?_withoutNulls_of_other (by decide)]
    split
    · rename_i gone
      rw [truthyText_of_lacks gone.2]
      rfl
    · rfl
  names := by rw [get?_withoutNulls_of_other (by decide), if_neg (by simp [textKeys])]
  solution := by rw [get?_withoutNulls_of_other (by decide), if_neg (by simp [textKeys])]

theorem question_withoutNulls (row : Json.Members) :
    question (withoutNulls row) = question row := by
  have quiz : textAt (withoutNulls row) "quiz" = textAt row "quiz" :=
    (readsAlike_withoutNulls row).text "quiz" (by decide) (by decide) (by decide)
  rw [question_eq, question_eq, quiz, get?_withoutNulls_of_other (by decide)]
  split
  · rfl
  · split
    · rename_i gone
      rcases lacks_iff.mp gone.2 with none | null
      · rw [none]
      · rw [null]
        rfl
    · rfl

theorem ofRow_withoutNulls (row : Json.Members) (split : Split) (index : Nat) :
    ofRow (withoutNulls row) split index = ofRow row split index := by
  rw [(readsAlike_withoutNulls row).ofRow_eq, question_withoutNulls]
  simp only [ofRow, promptOf]

end Missing

theorem ofRow_filledRow_iff (row : Json.Members) (split : Split) (index : Nat) :
    ofRow (filledRow row) split index = ofRow row split index ↔ ¬ AsksNull row := by
  rw [(readsAlike_filledRow row).ofRow_eq, question_filledRow]
  constructor
  · intro same asks
    have prompts := congrArg Record.prompt same
    rw [prompt_ofRow, question_of_asksNull asks, if_pos asks, promptOf_null, promptOf_empty]
      at prompts
    simp at prompts
  · intro asks
    rw [if_neg asks]
    simp only [ofRow, promptOf]

theorem ownText_of_lacks {f : OwnText} (member : f ∈ ownTexts) (lacks : Lacks row f.key) :
    f.text (ofRow row split index) = f.fallback := by
  simp only [ownTexts, List.mem_cons, List.not_mem_nil, or_false] at member
  rcases member with rfl | rfl | rfl | rfl | rfl
  · simp only [ofRow, textOr, textAt_of_lacks lacks, if_true]
  · simp only [ofRow, textOr, textAt_of_lacks lacks, if_true]
  · simp only [ofRow, textAt_of_lacks lacks]
  · simp only [ofRow, solutionIn, textAt_of_lacks lacks]
    decide
  · simp only [ofRow, truthyText_of_lacks lacks]

theorem prompt_of_asksNull (asks : AsksNull row) :
    (ofRow row split index).prompt = [⟨"system", systemPrompt⟩, ⟨"user", "null"⟩] := by
  rw [prompt_ofRow, question_of_asksNull asks, promptOf_null]

theorem ofRow_filledRow_of_asksNull (asks : AsksNull row) : ofRow (filledRow row) split index =
    { ofRow row split index with prompt := [⟨"system", systemPrompt⟩, ⟨"user", ""⟩] } := by
  rw [(readsAlike_filledRow row).ofRow_eq, question_filledRow, if_pos asks, promptOf_empty]

/-- A null under a key or among the steps counts as a missing value, which is the empty text or the
text that is used without one. With the empty text for every null a row gives the same record unless it
asks with a null inside its prompt; then the word `null` is asked instead of nothing. -/
theorem ofRow_reads_null (row : Json.Members) (split : Split) (index : Nat) :
    ofRow (withoutNulls row) split index = ofRow row split index ∧
      (∀ f ∈ ownTexts, Lacks row f.key → f.text (ofRow row split index) = f.fallback) ∧
      (ofRow (filledRow row) split index = ofRow row split index ↔ ¬ AsksNull row) ∧
      (AsksNull row →
        (ofRow row split index).prompt = [⟨"system", systemPrompt⟩, ⟨"user", "null"⟩] ∧
        ofRow (filledRow row) split index =
          { ofRow row split index with prompt := [⟨"system", systemPrompt⟩, ⟨"user", ""⟩] }) :=
  ⟨ofRow_withoutNulls row split index, fun _ member lacks => ownText_of_lacks member lacks,
    ofRow_filledRow_iff row split index,
    fun asks => ⟨prompt_of_asksNull asks, ofRow_filledRow_of_asksNull asks⟩⟩

/-- A null for the source and one for the content of the only message. -/
theorem ofRow_reads_null_of_two :
    AsksNull [("data_source", .null), ("prompt", .arr [.obj [("content", .null)]])] ∧
      Lacks [("data_source", .null), ("prompt", .arr [.obj [("content", .null)]])] "data_source" ∧
      (ofRow [("data_source", .null), ("prompt", .arr [.obj [("content", .null)]])]
        .train 0).dataSource = "kk_logic" ∧
      (ofRow [("data_source", .null), ("prompt", .arr [.obj [("content", .null)]])]
        .train 0).prompt = [⟨"system", systemPrompt⟩, ⟨"user", "null"⟩] := by
  have asks : AsksNull [("data_source", .null), ("prompt", .arr [.obj [("content", .null)]])] := by
    decide
  have lacks : Lacks [("data_source", .null), ("prompt", .arr [.obj [("content", .null)]])]
      "data_source" := by decide
  obtain ⟨-, own, -, asked⟩ := ofRow_reads_null
    [("data_source", .null), ("prompt", .arr [.obj [("content", .null)]])] .train 0
  exact ⟨asks, lacks, own _ List.mem_cons_self lacks, (asked asks).1⟩

/-- A prompt that begins with null, one with null as its content, and one that begins with such a
message: all three ask the word. -/
theorem ofRow_asks_null :
    (ofRow [("prompt", .arr [.null])] .train 0).prompt =
        [⟨"system", systemPrompt⟩, ⟨"user", "null"⟩] ∧
      (ofRow [("prompt", .obj [("content", .null)])] .train 0).prompt =
        [⟨"system", systemPrompt⟩, ⟨"user", "null"⟩] ∧
      (ofRow [("prompt", .arr [.obj [("content", .null)]])] .train 0).prompt =
        [⟨"system", systemPrompt⟩, ⟨"user", "null"⟩] ∧
      ofRow (filledRow [("prompt", .arr [.null])]) .train 0 ≠
        ofRow [("prompt", .arr [.null])] .train 0 :=
  ⟨prompt_of_asksNull (by decide), prompt_of_asksNull (by decide), prompt_of_asksNull (by decide),
    fun same => (ofRow_filledRow_iff _ _ _).mp same (by decide)⟩

end PuzzlePrep.Record

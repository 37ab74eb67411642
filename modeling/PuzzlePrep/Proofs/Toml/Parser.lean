import PuzzlePrep.Proofs.Settings.Layer

namespace PuzzlePrep.Toml

open Setting (Ordered)

/-- The values in the node are ordered; what stands in a list of tables does not matter. -/
inductive Node.Ordered : Node → Prop
  | leaf {value : Setting} (ordered : Setting.Ordered value) : Node.Ordered (.leaf value)
  | table {origin : Origin} {members : List (String × Node)}
    (each : ∀ e ∈ members, Node.Ordered e.2) : Node.Ordered (.table origin members)
  | tables (items : List (List (String × Node))) : Node.Ordered (.tables items)

def Nodes.Ordered (m : Nodes) : Prop := ∀ e ∈ m, Node.Ordered e.2

theorem Node.membersOf_eq_map (members : List (String × Node)) :
    Node.membersOf members = members.map fun e => (e.1, e.2.toSetting) := by
  induction members with
  | nil => rfl
  | cons e rest ih => rw [membersOf, List.map_cons, ih]

theorem Node.Ordered.toSetting {node : Node} (ordered : node.Ordered) :
    Setting.Ordered node.toSetting := by
  induction ordered with
  | leaf ordered => exact ordered
  | @table origin members _ ih =>
    unfold Node.toSetting
    refine Setting.ordered_ofList ?_
    rw [Node.membersOf_eq_map]
    intro e member
    obtain ⟨e', inside, rfl⟩ := List.mem_map.mp member
    exact ih e' inside
  | tables items =>
    unfold Node.toSetting
    exact .value nofun

section Nodes

variable {m m' : Nodes} {key : String} {node : Node}

theorem Nodes.ordered_nil : Nodes.Ordered [] := nofun

theorem Nodes.Ordered.lookup (ordered : Nodes.Ordered m) (found : m.lookup key = some node) :
    node.Ordered := by
  induction m with
  | nil => cases found
  | cons e rest ih =>
    obtain ⟨here, later⟩ := List.forall_mem_cons.mp ordered
    rw [List.lookup_cons] at found
    split at found
    · cases found
      exact here
    · exact ih later found

theorem Nodes.Ordered.put (ordered : Nodes.Ordered m) (new : node.Ordered) (key : String) :
    Nodes.Ordered (m.put key node) := by
  induction m with
  | nil =>
    intro e member
    obtain rfl := List.mem_singleton.mp member
    exact new
  | cons e rest ih =>
    obtain ⟨k, n⟩ := e
    obtain ⟨here, later⟩ := List.forall_mem_cons.mp ordered
    unfold Nodes.put
    split
    · exact List.forall_mem_cons.mpr ⟨new, later⟩
    · exact List.forall_mem_cons.mpr ⟨here, ih later⟩

theorem Nodes.Ordered.change {origin : Origin} {f : Nodes → Option Nodes} {keys : List String}
    (keeps : ∀ m m', Nodes.Ordered m → f m = some m' → Nodes.Ordered m')
    (ordered : Nodes.Ordered m) (changed : m.change origin f keys = some m') :
    Nodes.Ordered m' := by
  induction keys generalizing m m' with
  | nil => exact keeps m m' ordered changed
  | cons key more ih =>
    unfold Nodes.change at changed
    split at changed
    · obtain ⟨inner, made, rfl⟩ := Option.map_eq_some_iff.mp changed
      exact ordered.put (.table (ih ordered_nil made)) key
    · cases changed
    · rename_i was inner found
      split at changed
      · cases changed
      · obtain ⟨inner', made, rfl⟩ := Option.map_eq_some_iff.mp changed
        have before : Nodes.Ordered inner := by
          cases ordered.lookup found with
          | table each => exact each
        exact ordered.put (.table (ih before made)) key
    · obtain ⟨inner, -, rfl⟩ := Option.map_eq_some_iff.mp changed
      exact ordered.put (.tables _) key

theorem Nodes.Ordered.define {keys : List String} {value : Setting} (ordered : Nodes.Ordered m)
    (new : Setting.Ordered value) (defined : m.define keys value = some m') : Nodes.Ordered m' := by
  unfold Nodes.define at defined
  split at defined
  · cases defined
  · refine ordered.change ?_ defined
    intro inner inner' before added
    unfold Nodes.add at added
    split at added
    · cases added
    · cases added
      exact List.forall_mem_append.mpr ⟨before, List.forall_mem_singleton.mpr (.leaf new)⟩

theorem Nodes.Ordered.openTable {keys : List String} (ordered : Nodes.Ordered m)
    (opened : m.openTable keys = some m') : Nodes.Ordered m' := by
  unfold Nodes.openTable at opened
  split at opened
  · cases opened
  · refine ordered.change ?_ opened
    intro inner inner' before made
    split at made
    · cases made
      exact before.put (.table ordered_nil) _
    · rename_i below found
      cases made
      cases before.lookup found with
      | table each => exact before.put (.table each) _
    · cases made

theorem Nodes.Ordered.openNext {keys : List String} (ordered : Nodes.Ordered m)
    (opened : m.openNext keys = some m') : Nodes.Ordered m' := by
  unfold Nodes.openNext at opened
  split at opened
  · cases opened
  · refine ordered.change ?_ opened
    intro inner inner' before made
    split at made
    · cases made
      exact before.put (.tables _) _
    · cases made
      exact before.put (.tables _) _
    · cases made

end Nodes

section Values

variable {cs rest : List Char} {value : Setting}

theorem ordered_of_wholeOf? {i : Int} (read : wholeOf? i = some value) : Ordered value := by
  unfold wholeOf? at read
  split at read
  · cases read
    exact .value nofun
  · cases read

theorem ordered_of_basedNumber? {base : Nat} (read : basedNumber? base cs = some value) :
    Ordered value := by
  obtain ⟨ds, -, whole⟩ := Option.bind_eq_some_iff.mp read
  exact ordered_of_wholeOf? whole

theorem ordered_of_finite {x : Number.Binary}
    (read : (match x with
      | .infinite false => none
      | x => some (Setting.real x)) = some value) : Ordered value := by
  split at read
  · cases read
  · cases read
    exact .value nofun

theorem ordered_of_decimal? (read : decimal? cs = some value) : Ordered value := by
  unfold decimal? at read
  dsimp only at read
  split at read
  · cases read
    exact .value nofun
  split at read
  · cases read
    exact .value nofun
  obtain ⟨ds, -, read⟩ := Option.bind_eq_some_iff.mp read
  split at read
  · exact ordered_of_wholeOf? read
  -- with or without a fraction, then with or without an exponent
  split at read
  all_goals
    obtain ⟨fs, -, read⟩ := Option.bind_eq_some_iff.mp read
    split at read
    · obtain ⟨e, -, read⟩ := Option.bind_eq_some_iff.mp read
      exact ordered_of_finite read
    · obtain ⟨es, -, read⟩ := Option.bind_eq_some_iff.mp read
      obtain ⟨e, -, read⟩ := Option.bind_eq_some_iff.mp read
      exact ordered_of_finite read

theorem ordered_of_number? (read : number? cs = some value) : Ordered value := by
  unfold number? at read
  split at read
  · exact ordered_of_basedNumber? read
  · exact ordered_of_basedNumber? read
  · exact ordered_of_basedNumber? read
  · exact ordered_of_decimal? read

theorem ordered_of_token {token : List Char}
    (read : (if token == ['t', 'r', 'u', 'e'] then some (Setting.flag true)
      else if token == ['f', 'a', 'l', 's', 'e'] then some (.flag false)
      else if isTime token then some (.table [(timeKey, .text (String.ofList token))])
      else number? token) = some value) : Ordered value := by
  split at read
  · cases read
    exact .value nofun
  split at read
  · cases read
    exact .value nofun
  split at read
  · cases read
    have sorted : Setting.Members.Sorted [(timeKey, .text (String.ofList token))] :=
      List.pairwise_singleton _ timeKey
    refine .table sorted ?_
    intro e member
    obtain rfl := List.mem_singleton.mp member
    exact .value nofun
  · exact ordered_of_number? read

theorem ordered_of_plain? (read : plain? cs = some (value, rest)) : Ordered value := by
  unfold plain? at read
  obtain ⟨value', found, same⟩ := Option.map_eq_some_iff.mp read
  cases same
  exact ordered_of_token found

section Step

variable {fuel : Nat}

theorem ordered_of_readValue {depth : Nat}
    (inline : ∀ {depth done cs m rest}, Nodes.Ordered done →
      readInline depth fuel done cs = some (m, rest) → Nodes.Ordered m)
    (read : readValue depth (fuel + 1) cs = some (value, rest)) : Ordered value := by
  unfold readValue at read
  split at read
  · obtain ⟨_, -, same⟩ := Option.map_eq_some_iff.mp read
    cases same
    exact .value nofun
  · split at read
    · cases read
      exact Setting.ordered_empty
    · obtain ⟨_, inner, same⟩ := Option.map_eq_some_iff.mp read
      cases same
      exact (Node.Ordered.table (inline Nodes.ordered_nil inner)).toSetting
  · obtain ⟨_, -, same⟩ := Option.map_eq_some_iff.mp read
    cases same
    exact .value nofun
  · obtain ⟨_, -, same⟩ := Option.map_eq_some_iff.mp read
    cases same
    exact .value nofun
  · exact ordered_of_plain? read

theorem ordered_of_readInline {depth : Nat} {done m : Nodes}
    (values : ∀ {depth cs value rest}, readValue depth fuel cs = some (value, rest) → Ordered value)
    (inline : ∀ {depth done cs m rest}, Nodes.Ordered done →
      readInline depth fuel done cs = some (m, rest) → Nodes.Ordered m)
    (before : Nodes.Ordered done)
    (read : readInline depth (fuel + 1) done cs = some (m, rest)) : Nodes.Ordered m := by
  unfold readInline at read
  obtain ⟨⟨keys, _⟩, -, read⟩ := Option.bind_eq_some_iff.mp read
  dsimp only at read
  split at read
  · obtain ⟨⟨value, _⟩, first, read⟩ := Option.bind_eq_some_iff.mp read
    obtain ⟨done', defined, read⟩ := Option.bind_eq_some_iff.mp read
    have after : Nodes.Ordered done' := before.define (values first) defined
    split at read
    · exact inline after read
    · cases read
      exact after
    · cases read
  · cases read

end Step

/-- A value and the members of a table in braces, with a bound on how much is read of the text. -/
theorem ordered_of_read (fuel : Nat) :
    (∀ {depth cs value rest}, readValue depth fuel cs = some (value, rest) → Ordered value) ∧
      ∀ {depth done cs m rest}, Nodes.Ordered done →
        readInline depth fuel done cs = some (m, rest) → Nodes.Ordered m := by
  induction fuel with
  | zero =>
    constructor
    · intro depth cs value rest read
      unfold readValue at read
      cases read
    · intro depth done cs m rest _ read
      unfold readInline at read
      cases read
  | succ fuel ih =>
    obtain ⟨values, inline⟩ := ih
    exact ⟨ordered_of_readValue inline, ordered_of_readInline values inline⟩

end Values

section Documents

variable {d d' : Document} {fuel : Nat} {cs rest : List Char}

theorem Document.ordered_readLine (before : Nodes.Ordered d.root)
    (read : d.readLine fuel cs = some (d', rest)) : Nodes.Ordered d'.root := by
  unfold Document.readLine at read
  split at read
  · obtain ⟨found, -, read⟩ := Option.bind_eq_some_iff.mp read
    split at read
    · obtain ⟨root, opened, read⟩ := Option.bind_eq_some_iff.mp read
      cases read
      exact before.openNext opened
    · cases read
  · obtain ⟨found, -, read⟩ := Option.bind_eq_some_iff.mp read
    split at read
    · obtain ⟨root, opened, read⟩ := Option.bind_eq_some_iff.mp read
      cases read
      exact before.openTable opened
    · cases read
  · obtain ⟨found, -, read⟩ := Option.bind_eq_some_iff.mp read
    split at read
    · obtain ⟨⟨value, _⟩, first, read⟩ := Option.bind_eq_some_iff.mp read
      obtain ⟨root, changed, read⟩ := Option.bind_eq_some_iff.mp read
      cases read
      have new : Ordered value := (ordered_of_read fuel).1 first
      exact before.change (fun _ _ inner defined => inner.define new defined) changed
    · cases read

theorem Document.ordered_readAll (before : Nodes.Ordered d.root)
    (read : Document.readAll fuel d cs = some d') : Nodes.Ordered d'.root := by
  induction fuel generalizing d cs with
  | zero => cases read
  | succ fuel ih =>
    unfold Document.readAll at read
    obtain ⟨_, -, read⟩ := Option.bind_eq_some_iff.mp read
    split at read
    · cases read
      exact before
    · obtain ⟨⟨next, _⟩, line, read⟩ := Option.bind_eq_some_iff.mp read
      obtain ⟨_, -, read⟩ := Option.bind_eq_some_iff.mp read
      exact ih (ordered_readLine before line) read

theorem parse?_ordered {text : String} {layer : Setting} (read : parse? text = some layer) :
    Ordered layer := by
  obtain ⟨d, all, read⟩ := Option.bind_eq_some_iff.mp read
  cases read
  exact (Node.Ordered.table (Document.ordered_readAll Nodes.ordered_nil all)).toSetting

end Documents

end PuzzlePrep.Toml

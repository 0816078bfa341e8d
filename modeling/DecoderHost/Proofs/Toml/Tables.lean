import DecoderHost.Proofs.Toml.Lines

/-!
# What the lines of a document come to

A document is settled when the table that is open has been put into it. The lines of a table turn one settled
document into another, in one of three ways: the table is new at the top, it is in a table of which nothing is
known, or it joins others in a table that a longer header has called into being.
-/

namespace DecoderHost.Toml

/-! ## Settings -/

theorem foldlM_filter_isBlank (lines : List Line) (draft : Draft) :
    lines.foldlM Line.apply draft = (lines.filter fun line => !line.isBlank).foldlM Line.apply draft := by
  induction lines generalizing draft with
  | nil => rfl
  | cons line lines ih =>
    cases line with
    | blank => exact ih draft
    | _ => exact congrArg (Option.bind _) (funext ih)

/-- Settings as entries of the table that is open. -/
def values (settings : List (String × Value)) : Entries := settings.map fun (key, value) => (key, .value value)

theorem entryValues_values (settings : List (String × Value)) : Node.entryValues (values settings) = settings := by
  induction settings with
  | nil => rfl
  | cons setting settings ih => exact congrArg _ ih

theorem define_of_not_mem {draft : Draft} {key : String} (h : key ∉ draft.current.map Prod.fst) (value : Value) :
    draft.define [key] value = some { draft with current := draft.current ++ [(key, .value value)] } := by
  have hnone : draft.current.lookup key = none := by
    rw [List.lookup_eq_none_iff]
    intro entry hentry
    simp only [bne_iff_ne, ne_eq]
    rintro rfl
    exact h (List.mem_map_of_mem hentry)
  simp [Draft.define, splitLast, Entries.define, Entries.update, hnone]

/-- Settings with different keys are put into the open table one after the other. -/
theorem foldlM_settings {settings : List (String × Value)} {draft : Draft}
    (h : (draft.current.map Prod.fst ++ settings.map Prod.fst).Nodup) :
    (settings.map fun (key, value) => Line.setting key value).foldlM Line.apply draft =
      some { draft with current := draft.current ++ values settings } := by
  induction settings generalizing draft with
  | nil => simp [values]
  | cons setting settings ih =>
    obtain ⟨key, value⟩ := setting
    obtain ⟨-, -, hdisjoint⟩ := List.nodup_append.mp h
    have hkey : key ∉ draft.current.map Prod.fst := fun hmem => hdisjoint key hmem key List.mem_cons_self rfl
    have hdefine : Line.apply draft (.setting key value) = _ := define_of_not_mem hkey value
    rw [List.map_cons, List.foldlM_cons, hdefine, Option.bind_eq_bind, Option.bind_some, ih]
    · simp [values]
    · simpa using h

/-! ## Entries -/

theorem lookup_append_of_new {root : Entries} {key : String} (h : root.lookup key = none) (node : Node) :
    List.lookup key (root ++ [(key, node)]) = some node := by
  simp [List.lookup_append, h]

theorem replace_append_of_new {root : Entries} {key : String} (h : root.lookup key = none) (node other : Node) :
    Entries.replace (root ++ [(key, node)]) key other = root ++ [(key, other)] := by
  have hkeep : root.replace key other = root := by
    refine (List.map_congr_left fun entry hentry => ?_).trans (List.map_id root)
    have hne : key ≠ entry.1 := by simpa using List.lookup_eq_none_iff.mp h entry hentry
    exact if_neg (by simpa using hne.symm)
  have hlast : Entries.replace [(key, node)] key other = [(key, other)] := by simp [Entries.replace]
  rw [Entries.replace, List.map_append]
  exact congrArg₂ _ hkeep hlast

theorem lookup_replace {root : Entries} {key : String} {old : Node} (h : root.lookup key = some old) (node : Node) :
    (root.replace key node).lookup key = some node := by
  induction root with
  | nil => cases h
  | cons entry root ih =>
    obtain ⟨k, n⟩ := entry
    by_cases hk : key = k
    · subst hk
      simp [Entries.replace]
    · have hne : (key == k) = false := beq_false_of_ne hk
      have hcons : Entries.replace ((k, n) :: root) key node = (k, n) :: Entries.replace root key node := by
        simp [Entries.replace, Ne.symm hk]
      rw [List.lookup_cons, hne] at h
      rw [hcons, List.lookup_cons, hne]
      exact ih h

theorem replace_replace (root : Entries) (key : String) (node other : Node) :
    (root.replace key node).replace key other = root.replace key other := by
  rw [Entries.replace, Entries.replace, List.map_map]
  refine List.map_congr_left fun entry _ => ?_
  by_cases hk : entry.1 = key <;> simp [hk]

/-! ## Tables -/

/-- Lines turn one settled document into another. -/
def Turns (lines : List Line) (root next : Entries) : Prop :=
  ∀ draft : Draft, draft.settle = some root →
    ∃ draft', lines.foldlM Line.apply draft = some draft' ∧ draft'.settle = some next

theorem Turns.append {lines more : List Line} {root next last : Entries} (h : Turns lines root next)
    (hmore : Turns more next last) : Turns (lines ++ more) root last := by
  intro draft hdraft
  obtain ⟨draft', hlines, hnext⟩ := h draft hdraft
  obtain ⟨draft'', hmore, hlast⟩ := hmore draft' hnext
  refine ⟨draft'', ?_, hlast⟩
  rw [List.foldlM_append, hlines]
  exact hmore

/-- A table turns a document into the one in which the table that its header opens has been settled. -/
theorem Table.turns {table : Table} {root next : Entries} (opened : Entries)
    (hkeys : (table.settings.map Prod.fst).Nodup)
    (hopen : ∀ draft : Draft, draft.settle = some root →
      draft.openTable table.path = some { root := opened, path := table.path })
    (hsettle : Draft.settle { root := opened, path := table.path, current := values table.settings } = some next) :
    Turns table.lines root next := by
  intro draft hdraft
  refine ⟨_, ?_, hsettle⟩
  have hopened : Line.apply draft (.header table.path) = some _ := hopen draft hdraft
  have hnew : ((Draft.current { root := opened, path := table.path }).map Prod.fst ++
      table.settings.map Prod.fst).Nodup := by simpa using hkeys
  rw [lines, List.foldlM_cons, hopened]
  exact foldlM_settings hnew

variable {root entries : Entries} {settings : List (String × Value)}

/-- A table under a new key is added. -/
theorem turns_key (key : String) (hkeys : (settings.map Prod.fst).Nodup) (hnew : root.lookup key = none) :
    Turns (Table.lines ⟨[key], settings⟩) root (root ++ [(key, .table false false (values settings))]) := by
  refine Table.turns root hkeys (fun draft hdraft => ?_) ?_
  · simp [Draft.openTable, hdraft, splitLast, Draft.find?, hnew, Entries.update]
  · simp [Draft.settle, splitLast, Entries.update, hnew]

/-- A table in a table of which nothing is known calls that into being. -/
theorem turns_outer (outer inner : String) (hkeys : (settings.map Prod.fst).Nodup)
    (hnew : root.lookup outer = none) :
    Turns (Table.lines ⟨[outer, inner], settings⟩) root
      (root ++ [(outer, .table true false [(inner, .table false false (values settings))])]) := by
  refine Table.turns (root ++ [(outer, .table true false [])]) hkeys (fun draft hdraft => ?_) ?_
  · simp [Draft.openTable, hdraft, splitLast, Draft.find?, hnew, Entries.update]
  · simp [Draft.settle, splitLast, Entries.update, lookup_append_of_new hnew, replace_append_of_new hnew]

/-- A table in a table that has been called into being is added there. -/
theorem turns_inner (outer inner : String) (hkeys : (settings.map Prod.fst).Nodup)
    (houter : root.lookup outer = some (.table true false entries)) (hnew : entries.lookup inner = none) :
    Turns (Table.lines ⟨[outer, inner], settings⟩) root
      (root.replace outer (.table true false (entries ++ [(inner, .table false false (values settings))]))) := by
  refine Table.turns (root.replace outer (.table true false entries)) hkeys (fun draft hdraft => ?_) ?_
  · simp [Draft.openTable, hdraft, splitLast, Draft.find?, hnew, houter, Entries.update]
  · simp [Draft.settle, splitLast, Entries.update, hnew, lookup_replace houter, replace_replace]

/-- The entries of a document whose lines turn nothing into something. -/
theorem SpellsLines.parse_of_turns {text : String} {lines : List Line} {root : Entries}
    (h : SpellsLines text.toList lines) (hturns : Turns (lines.filter fun line => !line.isBlank) [] root) :
    Toml.parse text = some (Node.entryValues root) := by
  obtain ⟨draft, hlines, hsettle⟩ := hturns {} rfl
  rw [h.parse, foldlM_filter_isBlank, hlines, Option.bind_some, hsettle, Option.map_some]

end DecoderHost.Toml

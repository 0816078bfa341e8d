import DecoderHost.Proofs.Toml.Tables

/-!
# No key twice

A table of a document has every key once, at any depth and however it has been spelled: under a header, by
dotted keys, in braces, or as an item of an array of tables. So a document tells of each key at most one
value (`parse_distinct`), and what is found under a key does not depend on where it stands.
-/

namespace DecoderHost.Toml

/-- No table in a value has a key twice. -/
inductive Value.Distinct : Value → Prop
  | string (text : String) : Distinct (.string text)
  | integer (number : Int) : Distinct (.integer number)
  | floating (number : Floating) : Distinct (.floating number)
  | boolean (truth : Bool) : Distinct (.boolean truth)
  | moment : Distinct .moment
  | array {items : List Value} (hitems : ∀ item ∈ items, item.Distinct) : Distinct (.array items)
  | tables {items : List Value} (hitems : ∀ item ∈ items, item.Distinct) : Distinct (.tables items)
  | table {entries : List (String × Value)} (hkeys : (entries.map Prod.fst).Nodup)
    (hentries : ∀ entry ∈ entries, entry.2.Distinct) : Distinct (.table entries)

/-- No table below a node has a key twice. -/
inductive Node.Distinct : Node → Prop
  | value {v : Value} (hvalue : v.Distinct) : Distinct (.value v)
  | table {isImplicit isDotted : Bool} {entries : Entries} (hkeys : (entries.map Prod.fst).Nodup)
    (hentries : ∀ entry ∈ entries, entry.2.Distinct) : Distinct (.table isImplicit isDotted entries)
  | tables {items : List Node} (hitems : ∀ item ∈ items, item.Distinct) : Distinct (.tables items)

/-- Entries have every key once, and so have the tables below them. -/
structure Entries.Distinct (entries : Entries) : Prop where
  keys : (entries.map Prod.fst).Nodup
  nodes : ∀ entry ∈ entries, entry.2.Distinct

/-! ## Lookups -/

section Lookup

variable {α : Type} {entries : List (String × α)} {key : String} {a : α}

theorem mem_of_lookup (h : entries.lookup key = some a) : (key, a) ∈ entries := by
  obtain ⟨before, after, rfl, -⟩ := List.lookup_eq_some_iff.mp h
  simp

theorem lookup_eq_none_iff_not_mem : entries.lookup key = none ↔ key ∉ entries.map Prod.fst := by
  rw [List.lookup_eq_none_iff, List.mem_map]
  constructor
  · intro h hmem
    obtain ⟨entry, hentry, rfl⟩ := hmem
    simpa using h entry hentry
  · intro h entry hentry
    rw [bne_iff_ne]
    intro heq
    exact h ⟨entry, hentry, heq.symm⟩

/-- Where no key comes twice, an entry is found under its key. -/
theorem lookup_eq_some_iff_mem (hkeys : (entries.map Prod.fst).Nodup) :
    entries.lookup key = some a ↔ (key, a) ∈ entries := by
  refine ⟨mem_of_lookup, fun h => ?_⟩
  obtain ⟨before, after, rfl⟩ := List.append_of_mem h
  rw [List.map_append, List.map_cons] at hkeys
  have hnew : key ∉ before.map Prod.fst := fun hmem =>
    (List.nodup_append.mp hkeys).2.2 key hmem key List.mem_cons_self rfl
  refine List.lookup_eq_some_iff.mpr ⟨before, after, rfl, fun entry hentry => ?_⟩
  exact bne_iff_ne.mpr fun heq => hnew (heq ▸ List.mem_map_of_mem hentry)

/-- Where no key comes twice, the order of the entries is of no account. -/
theorem lookup_perm {others : List (String × α)} (h : entries.Perm others) (hkeys : (entries.map Prod.fst).Nodup)
    (key : String) : entries.lookup key = others.lookup key := by
  have hothers := (h.map Prod.fst).nodup_iff.mp hkeys
  apply Option.ext
  intro a
  rw [lookup_eq_some_iff_mem hkeys, lookup_eq_some_iff_mem hothers, h.mem_iff]

end Lookup

namespace Node

theorem Distinct.entries {isImplicit isDotted : Bool} {entries : Entries}
    (h : (Node.table isImplicit isDotted entries).Distinct) : entries.Distinct := by
  cases h with
  | table hkeys hentries => exact ⟨hkeys, hentries⟩

theorem Distinct.items {items : List Node} (h : (Node.tables items).Distinct) :
    ∀ item ∈ items, item.Distinct := by
  cases h with
  | tables hitems => exact hitems

/-- The last of some items may be put in the place of another. -/
theorem distinct_dropLast_append {items : List Node} (hitems : ∀ item ∈ items, item.Distinct) {last : Node}
    (hlast : last.Distinct) : ∀ item ∈ items.dropLast ++ [last], item.Distinct := by
  intro item hitem
  rcases List.mem_append.mp hitem with hitem | hitem
  · exact hitems item (List.dropLast_subset _ hitem)
  · obtain rfl := List.mem_singleton.mp hitem
    exact hlast

end Node

namespace Entries

variable {entries : Entries} {key : String} {n : Node}

theorem Distinct.node (h : entries.Distinct) {isImplicit isDotted : Bool} :
    (Node.table isImplicit isDotted entries).Distinct :=
  .table h.keys h.nodes

theorem Distinct.nil : Distinct [] := ⟨List.nodup_nil, by simp⟩

theorem Distinct.lookup (h : entries.Distinct) (hlookup : List.lookup key entries = some n) :
    n.Distinct :=
  h.nodes _ (mem_of_lookup hlookup)

theorem Distinct.append_new (h : entries.Distinct) (hnew : List.lookup key entries = none)
    (hnode : n.Distinct) : Distinct (entries ++ [(key, n)]) := by
  constructor
  · rw [List.map_append, List.nodup_append]
    refine ⟨h.keys, by simp, ?_⟩
    intro other hother last hlast heq
    obtain rfl : last = key := List.mem_singleton.mp hlast
    exact lookup_eq_none_iff_not_mem.mp hnew (heq ▸ hother)
  · intro entry hentry
    rcases List.mem_append.mp hentry with hentry | hentry
    · exact h.nodes entry hentry
    · obtain rfl := List.mem_singleton.mp hentry
      exact hnode

/-- What is replaced keeps its key. -/
theorem keys_replace (entries : Entries) (key : String) (node : Node) :
    (entries.replace key node).map Prod.fst = entries.map Prod.fst := by
  rw [replace, List.map_map]
  refine List.map_congr_left fun entry _ => ?_
  by_cases hkey : entry.1 = key <;> simp [hkey]

theorem Distinct.replace (h : entries.Distinct) (key : String) (hnode : n.Distinct) :
    Distinct (entries.replace key n) := by
  constructor
  · rw [keys_replace]
    exact h.keys
  · intro entry hentry
    obtain ⟨old, hold, rfl⟩ := List.mem_map.mp hentry
    by_cases hkey : old.1 = key
    · simpa [hkey] using hnode
    · simpa [hkey] using h.nodes old hold

theorem Distinct.without (h : entries.Distinct) (key : String) : Distinct (entries.without key) := by
  constructor
  · exact h.keys.sublist (List.filter_sublist.map _)
  · intro entry hentry
    exact h.nodes entry (List.mem_filter.mp hentry).1

/-- A change to the table at a path keeps the keys apart if it does so in that table. -/
theorem Distinct.update {throughDotted : Bool} {change : Bool → Entries → Option Entries}
    (hchange : ∀ isDotted inner after, Distinct inner → change isDotted inner = some after → Distinct after)
    {path : List String} {isDotted : Bool} {after : Entries} (h : entries.Distinct)
    (hupdate : Entries.update throughDotted path change isDotted entries = some after) : after.Distinct := by
  induction path generalizing isDotted entries after with
  | nil => exact hchange isDotted entries after h hupdate
  | cons key path ih =>
    unfold Entries.update at hupdate
    cases hlookup : List.lookup key entries with
    | none =>
      rw [hlookup] at hupdate
      obtain ⟨inner, hinner, hafter⟩ := Option.bind_eq_some_iff.mp hupdate
      cases hafter
      exact h.append_new hlookup (ih .nil hinner).node
    | some node =>
      rw [hlookup] at hupdate
      have hnode := h.lookup hlookup
      cases hnode with
      | value => cases hupdate
      | table hkeys hentries =>
        dsimp only at hupdate
        split at hupdate
        · cases hupdate
        · obtain ⟨inner, hinner, hafter⟩ := Option.bind_eq_some_iff.mp hupdate
          cases hafter
          exact h.replace key (ih ⟨hkeys, hentries⟩ hinner).node
      | @tables items hitems =>
        dsimp only at hupdate
        split at hupdate
        · next isImplicit isDotted inner hlast =>
          obtain ⟨changed, hchanged, hafter⟩ := Option.bind_eq_some_iff.mp hupdate
          cases hafter
          have hinner := (hitems _ (List.mem_of_getLast? hlast)).entries
          have hafter := ih hinner hchanged
          exact h.replace key (.tables (Node.distinct_dropLast_append hitems hafter.node))
        · cases hupdate

/-- A key that is defined is new where it is put. -/
theorem Distinct.define (h : entries.Distinct) {path : List String} (hnode : n.Distinct) {after : Entries}
    (hdefine : entries.define path key n = some after) : after.Distinct := by
  refine h.update (fun isDotted inner changed hinner hchanged => ?_) hdefine
  split at hchanged
  · cases hchanged
  · next hnew =>
    cases hchanged
    rw [Bool.or_eq_true, not_or, Option.not_isSome_iff_eq_none] at hnew
    exact hinner.append_new hnew.2 hnode

end Entries

/-! ## Values -/

theorem entryValues_eq (entries : Entries) :
    Node.entryValues entries = entries.map fun entry => (entry.1, entry.2.toValue) := by
  induction entries with
  | nil => rfl
  | cons entry rest ih => exact congrArg _ ih

theorem itemValues_eq (items : List Node) : Node.itemValues items = items.map Node.toValue := by
  induction items with
  | nil => rfl
  | cons item rest ih => exact congrArg _ ih

theorem keys_entryValues (entries : Entries) :
    (Node.entryValues entries).map Prod.fst = entries.map Prod.fst := by
  rw [entryValues_eq, List.map_map]
  rfl

/-- The value that a node stands for has its keys. -/
theorem Node.Distinct.toValue {node : Node} (h : node.Distinct) : node.toValue.Distinct := by
  induction h with
  | value hvalue => exact hvalue
  | table hkeys hentries ih =>
    refine .table ?_ ?_
    · rw [keys_entryValues]
      exact hkeys
    · intro entry hentry
      rw [entryValues_eq] at hentry
      obtain ⟨old, hold, rfl⟩ := List.mem_map.mp hentry
      exact ih old hold
  | tables hitems ih =>
    refine .tables ?_
    intro item hitem
    rw [itemValues_eq] at hitem
    obtain ⟨old, hold, rfl⟩ := List.mem_map.mp hitem
    exact ih old hold

theorem Entries.Distinct.entryValues {entries : Entries} (h : entries.Distinct) :
    Value.Distinct (.table (Node.entryValues entries)) :=
  (h.node : (Node.table false false entries).Distinct).toValue

/-! ## Readers -/

theorem checkedInteger_distinct {number : Int} {v : Value} (h : checkedInteger number = some v) :
    v.Distinct := by
  unfold checkedInteger at h
  split at h
  · cases h
    exact .integer number
  · cases h

theorem floating_distinct {isNegative : Bool} {digits : List Char} {power : Int} {v : Value}
    (h : floating isNegative digits power = some v) : v.Distinct := by
  unfold floating at h
  split at h
  · cases h
    exact .floating _
  · split at h
    · cases h
      exact .floating _
    · cases h

theorem readInteger_distinct {text rest : List Char} {v : Value} (h : readInteger text = some (v, rest)) :
    v.Distinct := by
  have hbased : ∀ base isDigit text, readBased base isDigit text = some (v, rest) → v.Distinct := by
    intro base isDigit text h
    obtain ⟨⟨digits, left⟩, -, h⟩ := Option.bind_eq_some_iff.mp h
    obtain ⟨value, hvalue, h⟩ := Option.bind_eq_some_iff.mp h
    cases h
    exact checkedInteger_distinct hvalue
  unfold readInteger at h
  split at h
  · exact hbased _ _ _ h
  · exact hbased _ _ _ h
  · exact hbased _ _ _ h
  · obtain ⟨⟨digits, left⟩, -, h⟩ := Option.bind_eq_some_iff.mp h
    obtain ⟨value, hvalue, h⟩ := Option.bind_eq_some_iff.mp h
    cases h
    exact checkedInteger_distinct hvalue

theorem readFloating_distinct {text rest : List Char} {v : Value} (h : readFloating text = some (v, rest)) :
    v.Distinct := by
  unfold readFloating at h
  dsimp only at h
  split at h
  · cases h
    exact .floating _
  · cases h
    exact .floating _
  · obtain ⟨⟨whole, left⟩, -, h⟩ := Option.bind_eq_some_iff.mp h
    dsimp only at h
    split at h
    · obtain ⟨⟨fraction, left⟩, -, h⟩ := Option.bind_eq_some_iff.mp h
      obtain ⟨value, hvalue, h⟩ := Option.bind_eq_some_iff.mp h
      cases h
      exact floating_distinct hvalue
    · obtain ⟨⟨exponent, left⟩, -, h⟩ := Option.bind_eq_some_iff.mp h
      obtain ⟨value, hvalue, h⟩ := Option.bind_eq_some_iff.mp h
      cases h
      exact floating_distinct hvalue

theorem readMoment_distinct {text rest : List Char} {v : Value} (h : readMoment text = some (v, rest)) :
    v.Distinct := by
  have hmap : ∀ left? : Option (List Char), left?.map (fun left => (Value.moment, left)) = some (v, rest) →
      v.Distinct := by
    intro left? h
    obtain ⟨left, -, h⟩ := Option.map_eq_some_iff.mp h
    cases h
    exact .moment
  unfold readMoment at h
  split at h
  · exact hmap _ h
  · split at h
    · split at h
      · split at h
        · exact hmap _ h
        · cases h
          exact .moment
      · cases h
        exact .moment
    · cases h
      exact .moment

theorem readNumeric_distinct {text rest : List Char} {v : Value} (h : readNumeric text = some (v, rest)) :
    v.Distinct := by
  unfold readNumeric at h
  cases hmoment : readMoment text with
  | some read =>
    rw [hmoment] at h
    cases h
    exact readMoment_distinct hmoment
  | none =>
    cases hfloating : readFloating text with
    | some read =>
      rw [hmoment, hfloating] at h
      cases h
      exact readFloating_distinct hfloating
    | none =>
      rw [hmoment, hfloating] at h
      exact readInteger_distinct h

/-- What the three readers of nested values read within a bound has no key twice. -/
structure ReadsDistinct (steps : Nat) : Prop where
  value {depth : Nat} {text rest : List Char} {v : Value} :
    readValue steps depth text = some (v, rest) → v.Distinct
  items {depth : Nat} {text rest : List Char} {items : List Value} :
    readItems steps depth text = some (items, rest) → ∀ item ∈ items, item.Distinct
  pairs {depth : Nat} {text rest : List Char} {entries after : Entries} :
    entries.Distinct → readPairs steps depth entries text = some (after, rest) → after.Distinct

namespace ReadsDistinct

variable {steps depth : Nat} {text rest : List Char}

theorem zero : ReadsDistinct 0 where
  value h := by simp [readValue] at h
  items h := by simp [readItems] at h
  pairs _ h := by simp [readPairs] at h

/-- A value within a bound is read by what reads lists and tables within the next smaller one. -/
theorem value_succ (h : ReadsDistinct steps) {v : Value} (hread : readValue (steps + 1) depth text = some (v, rest)) :
    v.Distinct := by
  unfold readValue at hread
  split at hread
  · split at hread
    · obtain ⟨⟨items, left⟩, hitems, hread⟩ := Option.bind_eq_some_iff.mp hread
      cases hread
      exact .array (h.items hitems)
    · cases hread
  · split at hread
    · split at hread
      · cases hread
        exact .table List.nodup_nil (by simp)
      · obtain ⟨⟨entries, left⟩, hpairs, hread⟩ := Option.bind_eq_some_iff.mp hread
        cases hread
        exact (h.pairs .nil hpairs).entryValues
    · cases hread
  · cases hread
    exact .boolean true
  · cases hread
    exact .boolean false
  · obtain ⟨⟨t, left⟩, -, hread⟩ := Option.map_eq_some_iff.mp hread
    cases hread
    exact .string _
  · obtain ⟨⟨t, left⟩, -, hread⟩ := Option.map_eq_some_iff.mp hread
    cases hread
    exact .string _
  · exact readFloating_distinct hread
  · exact readFloating_distinct hread
  · split at hread
    · exact readNumeric_distinct hread
    · cases hread
  · cases hread

theorem items_succ (h : ReadsDistinct steps) {items : List Value}
    (hread : readItems (steps + 1) depth text = some (items, rest)) : ∀ item ∈ items, item.Distinct := by
  unfold readItems at hread
  obtain ⟨start, -, hread⟩ := Option.bind_eq_some_iff.mp hread
  split at hread
  · cases hread
    exact List.forall_mem_nil _
  · obtain ⟨⟨item, left⟩, hitem, hread⟩ := Option.bind_eq_some_iff.mp hread
    obtain ⟨next, -, hread⟩ := Option.bind_eq_some_iff.mp hread
    split at hread
    · cases hread
      exact List.forall_mem_singleton.mpr (h.value hitem)
    · obtain ⟨⟨more, left⟩, hmore, hread⟩ := Option.bind_eq_some_iff.mp hread
      cases hread
      exact List.forall_mem_cons.mpr ⟨h.value hitem, h.items hmore⟩
    · cases hread

theorem pairs_succ (h : ReadsDistinct steps) {entries after : Entries} (hentries : entries.Distinct)
    (hread : readPairs (steps + 1) depth entries text = some (after, rest)) : after.Distinct := by
  unfold readPairs at hread
  obtain ⟨⟨name, left⟩, -, hread⟩ := Option.bind_eq_some_iff.mp hread
  dsimp only at hread
  split at hread
  · obtain ⟨⟨v, left⟩, hvalue, hread⟩ := Option.bind_eq_some_iff.mp hread
    obtain ⟨⟨path, key⟩, -, hread⟩ := Option.bind_eq_some_iff.mp hread
    obtain ⟨defined, hdefined, hread⟩ := Option.bind_eq_some_iff.mp hread
    have hdefined := hentries.define (.value (h.value hvalue)) hdefined
    split at hread
    · cases hread
      exact hdefined
    · exact h.pairs hdefined hread
    · cases hread
  · cases hread

end ReadsDistinct

/-- The readers keep the keys apart whatever the bound. -/
theorem readsDistinct (steps : Nat) : ReadsDistinct steps := by
  induction steps with
  | zero => exact .zero
  | succ steps ih => exact ⟨ih.value_succ, ih.items_succ, ih.pairs_succ⟩

/-! ## Documents -/

namespace Draft

/-- A document being read has no key twice, neither in what is settled nor in the open table. -/
structure Distinct (draft : Draft) : Prop where
  root : draft.root.Distinct
  current : draft.current.Distinct

variable {draft next : Draft}

theorem Distinct.settle (h : draft.Distinct) {root : Entries} (hsettle : draft.settle = some root) :
    root.Distinct := by
  unfold Draft.settle at hsettle
  split at hsettle
  · cases hsettle
    exact h.current
  · next path key _ =>
    refine h.root.update (fun _ entries after hentries hafter => ?_) hsettle
    split at hafter
    · next hnew =>
      cases hafter
      refine hentries.append_new hnew ?_
      split
      · exact .tables (List.forall_mem_singleton.mpr h.current.node)
      · exact h.current.node
    · next items hlookup =>
      split at hafter
      · cases hafter
        refine hentries.replace key (.tables ?_)
        refine List.forall_mem_append.mpr ⟨?_, List.forall_mem_singleton.mpr h.current.node⟩
        exact (hentries.lookup hlookup).items
      · cases hafter
    · split at hafter
      · cases hafter
      · cases hafter
        exact hentries.replace key h.current.node
    · cases hafter

/-- What is found at a path is a table of the document. -/
theorem find?_distinct {path : List String} {entries inner : Entries} (h : entries.Distinct)
    (hfind : find? path entries = some inner) : inner.Distinct := by
  induction path generalizing entries with
  | nil =>
    cases hfind
    exact h
  | cons key path ih =>
    unfold find? at hfind
    split at hfind
    · next hlookup => exact ih (h.lookup hlookup).entries hfind
    · next items hlookup =>
      split at hfind
      · next hlast =>
        have hitem := (h.lookup hlookup).items _ (List.mem_of_getLast? hlast)
        exact ih hitem.entries hfind
      · cases hfind
    · cases hfind

theorem Distinct.openTable (h : draft.Distinct) {name : List String}
    (hopen : draft.openTable name = some next) : next.Distinct := by
  obtain ⟨root, hroot, hopen⟩ := Option.bind_eq_some_iff.mp hopen
  obtain ⟨⟨path, key⟩, -, hopen⟩ := Option.bind_eq_some_iff.mp hopen
  have hroot := h.settle hroot
  dsimp only at hopen
  split at hopen
  · obtain ⟨opened, hopened, hopen⟩ := Option.bind_eq_some_iff.mp hopen
    cases hopen
    refine ⟨hroot.update (fun _ entries after hentries hafter => ?_) hopened, .nil⟩
    cases hafter
    exact hentries
  · next inner hfound =>
    obtain ⟨opened, hopened, hopen⟩ := Option.bind_eq_some_iff.mp hopen
    cases hopen
    obtain ⟨around, haround, hlookup⟩ := Option.bind_eq_some_iff.mp hfound
    refine ⟨hroot.update (fun _ entries after hentries hafter => ?_) hopened, ?_⟩
    · cases hafter
      exact hentries.without key
    · exact ((find?_distinct hroot haround).lookup hlookup).entries
  · cases hopen

theorem Distinct.openItem (h : draft.Distinct) {name : List String}
    (hopen : draft.openItem name = some next) : next.Distinct := by
  obtain ⟨root, hroot, hopen⟩ := Option.bind_eq_some_iff.mp hopen
  obtain ⟨⟨path, key⟩, -, hopen⟩ := Option.bind_eq_some_iff.mp hopen
  obtain ⟨opened, hopened, hopen⟩ := Option.bind_eq_some_iff.mp hopen
  cases hopen
  refine ⟨(h.settle hroot).update (fun _ entries after hentries hafter => ?_) hopened, .nil⟩
  split at hafter
  · next hnew =>
    cases hafter
    exact hentries.append_new hnew (.tables (by simp))
  · cases hafter
    exact hentries
  · cases hafter

theorem Distinct.define (h : draft.Distinct) {name : List String} {v : Value} (hvalue : v.Distinct)
    (hdefine : draft.define name v = some next) : next.Distinct := by
  obtain ⟨⟨path, key⟩, -, hdefine⟩ := Option.bind_eq_some_iff.mp hdefine
  obtain ⟨current, hcurrent, hdefine⟩ := Option.bind_eq_some_iff.mp hdefine
  cases hdefine
  exact ⟨h.root, h.current.define (.value hvalue) hcurrent⟩

/-- One line keeps the keys apart. -/
theorem Distinct.readLine (h : draft.Distinct) {steps : Nat} {text rest : List Char}
    (hread : readLine steps draft text = some (next, rest)) : next.Distinct := by
  unfold Toml.readLine at hread
  split at hread
  · obtain ⟨⟨name, left⟩, -, hread⟩ := Option.bind_eq_some_iff.mp hread
    dsimp only at hread
    split at hread
    · obtain ⟨left, -, hread⟩ := Option.bind_eq_some_iff.mp hread
      obtain ⟨opened, hopened, hread⟩ := Option.bind_eq_some_iff.mp hread
      cases hread
      exact h.openItem hopened
    · cases hread
  · obtain ⟨⟨name, left⟩, -, hread⟩ := Option.bind_eq_some_iff.mp hread
    dsimp only at hread
    split at hread
    · obtain ⟨left, -, hread⟩ := Option.bind_eq_some_iff.mp hread
      obtain ⟨opened, hopened, hread⟩ := Option.bind_eq_some_iff.mp hread
      cases hread
      exact h.openTable hopened
    · cases hread
  · obtain ⟨left, -, hread⟩ := Option.map_eq_some_iff.mp hread
    cases hread
    exact h
  · cases hread
    exact h
  · cases hread
    exact h
  · obtain ⟨⟨name, left⟩, -, hread⟩ := Option.bind_eq_some_iff.mp hread
    dsimp only at hread
    split at hread
    · obtain ⟨⟨v, left⟩, hvalue, hread⟩ := Option.bind_eq_some_iff.mp hread
      obtain ⟨left, -, hread⟩ := Option.bind_eq_some_iff.mp hread
      obtain ⟨defined, hdefined, hread⟩ := Option.bind_eq_some_iff.mp hread
      cases hread
      exact h.define ((readsDistinct steps).value hvalue) hdefined
    · cases hread

/-- All lines keep the keys apart. -/
theorem Distinct.readLines (h : draft.Distinct) {steps lines : Nat} {text : List Char}
    (hread : readLines steps lines draft text = some next) : next.Distinct := by
  induction lines generalizing draft text with
  | zero => cases hread
  | succ lines ih =>
    unfold Toml.readLines at hread
    split at hread
    · cases hread
      exact h
    · obtain ⟨⟨after, rest⟩, hline, hread⟩ := Option.bind_eq_some_iff.mp hread
      exact ih (h.readLine hline) hread

end Draft

/-- **No key twice.** In a document that is read no table has a key twice. -/
theorem parse_distinct {text : String} {document : List (String × Value)} (h : parse text = some document) :
    Value.Distinct (.table document) := by
  obtain ⟨draft, hlines, h⟩ := Option.bind_eq_some_iff.mp h
  obtain ⟨entries, hentries, h⟩ := Option.bind_eq_some_iff.mp h
  cases h
  have hempty : Draft.Distinct {} := ⟨.nil, .nil⟩
  exact ((hempty.readLines hlines).settle hentries).entryValues

end DecoderHost.Toml

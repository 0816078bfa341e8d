import DecoderHost.Proofs.Toml.Distinct

/-!
# Values in documents

What is at a path below a value, and when two values are the same: a table is told by what is under its keys
and not by their order, and a list by its items, whether they stand in brackets or under headers of one name.
-/

namespace DecoderHost.Toml

namespace Value

/-- The value at a path below a value, on which every key leads through a table. -/
def at? : Value → List String → Option Value
  | value, [] => some value
  | .table entries, key :: path => (entries.lookup key).bind fun inner => inner.at? path
  | _, _ :: _ => none

theorem at?_append (value : Value) (path more : List String) :
    value.at? (path ++ more) = (value.at? path).bind fun inner => inner.at? more := by
  induction path generalizing value with
  | nil => rfl
  | cons key path ih =>
    cases value with
    | table entries =>
      show (entries.lookup key).bind (fun inner => inner.at? (path ++ more)) = _
      simp only [ih, at?, Option.bind_assoc]
    | _ => rfl

theorem Distinct.lookup {entries : List (String × Value)} (h : Distinct (.table entries)) {key : String}
    {value : Value} (hlookup : entries.lookup key = some value) : value.Distinct := by
  cases h with
  | table hkeys hentries => exact hentries _ (mem_of_lookup hlookup)

theorem Distinct.at? {value inner : Value} (h : value.Distinct) {path : List String}
    (hat : value.at? path = some inner) : inner.Distinct := by
  induction path generalizing value with
  | nil =>
    cases hat
    exact h
  | cons key path ih =>
    cases value with
    | table entries =>
      obtain ⟨next, hlookup, hat⟩ := Option.bind_eq_some_iff.mp hat
      exact ih (h.lookup hlookup) hat
    | _ => cases hat

/-! ## The same values -/

/-- The items of a list of either kind. -/
def items? : Value → Option (List Value)
  | .array items | .tables items => some items
  | _ => none

/-- Two values are the same: numbers and texts are equal, lists have the same items, and tables have the same
values under the same keys. -/
inductive Same : Value → Value → Prop
  | string (text : String) : Same (.string text) (.string text)
  | integer (number : Int) : Same (.integer number) (.integer number)
  | floating (number : Floating) : Same (.floating number) (.floating number)
  | boolean (truth : Bool) : Same (.boolean truth) (.boolean truth)
  | moment : Same .moment .moment
  | list {value other : Value} {items others : List Value} (hitems : value.items? = some items)
    (hothers : other.items? = some others) (hlength : items.length = others.length)
    (hsame : ∀ (i : Nat) a b, items[i]? = some a → others[i]? = some b → Same a b) : Same value other
  | table {entries others : List (String × Value)}
    (hkeys : ∀ key, entries.lookup key = none ↔ others.lookup key = none)
    (hsame : ∀ key a b, entries.lookup key = some a → others.lookup key = some b → Same a b) :
    Same (.table entries) (.table others)

theorem Same.symm {value other : Value} (h : Same value other) : Same other value := by
  induction h with
  | string text => exact .string text
  | integer number => exact .integer number
  | floating number => exact .floating number
  | boolean truth => exact .boolean truth
  | moment => exact .moment
  | list hitems hothers hlength _ ih =>
    exact .list hothers hitems hlength.symm fun i a b ha hb => ih i b a hb ha
  | table hkeys _ ih =>
    exact .table (fun key => (hkeys key).symm) fun key a b ha hb => ih key b a hb ha

theorem Same.of_items {value : Value} {items : List Value} (hitems : value.items? = some items)
    (h : ∀ item ∈ items, Same item item) : Same value value := by
  refine .list hitems hitems rfl fun i a b ha hb => ?_
  obtain rfl : a = b := Option.some.inj (ha.symm.trans hb)
  exact h a (List.mem_of_getElem? ha)

/-- Every value is the same as itself. -/
theorem Same.refl : (value : Value) → Same value value
  | .string text => .string text
  | .integer number => .integer number
  | .floating number => .floating number
  | .boolean truth => .boolean truth
  | .moment => .moment
  | .array items => .of_items rfl fun item hitem =>
    have hlt : sizeOf item < sizeOf (Value.array items) := by
      have := List.sizeOf_lt_of_mem hitem
      simp only [array.sizeOf_spec]
      omega
    refl item
  | .tables items => .of_items rfl fun item hitem =>
    have hlt : sizeOf item < sizeOf (Value.tables items) := by
      have := List.sizeOf_lt_of_mem hitem
      simp only [tables.sizeOf_spec]
      omega
    refl item
  | .table entries => .table (fun key => Iff.rfl) fun key a b ha hb =>
    have hlt : sizeOf a < sizeOf (Value.table entries) := by
      have := List.sizeOf_lt_of_mem (mem_of_lookup ha)
      simp only [Prod.mk.sizeOf_spec] at this
      simp only [table.sizeOf_spec]
      omega
    Option.some.inj (ha.symm.trans hb) ▸ refl a
termination_by value => sizeOf value
decreasing_by all_goals exact hlt

/-! ## What is the same as a text, a number, a truth value or nothing -/

theorem Same.eq_string {text : String} {value : Value} (h : Same (.string text) value) : value = .string text := by
  cases h with
  | string => rfl
  | list hitems => cases hitems

theorem Same.eq_integer {number : Int} {value : Value} (h : Same (.integer number) value) :
    value = .integer number := by
  cases h with
  | integer => rfl
  | list hitems => cases hitems

theorem Same.eq_boolean {truth : Bool} {value : Value} (h : Same (.boolean truth) value) :
    value = .boolean truth := by
  cases h with
  | boolean => rfl
  | list hitems => cases hitems

/-- Tables and lists of nothing. -/
def IsEmpty (value : Value) : Prop := value = .table [] ∨ value.items? = some []

theorem Same.isEmpty {value other : Value} (h : Same value other) (hempty : value.IsEmpty) : other.IsEmpty := by
  rcases hempty with rfl | hempty
  · cases h with
    | list hitems => cases hitems
    | @table _ others hkeys =>
      left
      cases others with
      | nil => rfl
      | cons entry rest =>
        have hnone := (hkeys entry.1).mp rfl
        simp at hnone
  · cases h with
    | list hitems hothers hlength =>
      right
      obtain rfl := Option.some.inj (hitems.symm.trans hempty)
      rw [hothers, List.length_eq_zero_iff.mp hlength.symm]
    | _ => cases hempty

/-- A table in which no key comes twice and only one key is found has one entry. -/
theorem eq_singleton_of_lookup {entries : List (String × Value)} (hkeys : (entries.map Prod.fst).Nodup)
    {key : String} (h : ∀ other, entries.lookup other = none ↔ other ≠ key) :
    ∃ value, entries = [(key, value)] := by
  have hmem : ∀ entry ∈ entries, entry.1 = key := by
    intro entry hentry
    by_contra hne
    exact lookup_eq_none_iff_not_mem.mp ((h entry.1).mpr hne) (List.mem_map_of_mem hentry)
  cases entries with
  | nil => exact absurd rfl ((h key).mp rfl)
  | cons entry rest =>
    obtain ⟨first, value⟩ := entry
    obtain rfl : first = key := hmem _ List.mem_cons_self
    cases rest with
    | nil => exact ⟨value, rfl⟩
    | cons other rest =>
      have hsame : other.1 = first := hmem other (by simp)
      simp [hsame] at hkeys

/-- What is the same as a table with one entry is such a table, if no key comes twice in it. -/
theorem Same.eq_singleton {key : String} {value other : Value} (h : Same (.table [(key, value)]) other)
    (hdistinct : other.Distinct) : ∃ content, other = .table [(key, content)] ∧ Same value content := by
  cases h with
  | list hitems => cases hitems
  | @table _ others hkeys hsame =>
    cases hdistinct with
    | table hnodup hentries =>
      have hfound : ∀ other, others.lookup other = none ↔ other ≠ key := by
        intro other
        rw [← hkeys, lookup_eq_none_iff_not_mem]
        simp
      obtain ⟨content, rfl⟩ := eq_singleton_of_lookup hnodup hfound
      exact ⟨content, rfl, hsame key value content (by simp) (by simp)⟩

end Value

end DecoderHost.Toml

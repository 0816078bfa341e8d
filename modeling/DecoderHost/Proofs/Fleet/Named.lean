import DecoderHost.Fleet

/-!
# Named things

What is found under a name after something was put under it or under another name, or was taken away, and which names
there are then.
-/

namespace DecoderHost.Named

variable {α : Type} {things : Named α} {name : String}

theorem get?_without (things : Named α) {name other : String} (h : other ≠ name) :
    (things.without name).get? other = things.get? other := by
  induction things with
  | nil => rfl
  | cons thing rest ih =>
    obtain ⟨key, a⟩ := thing
    unfold without get? at *
    by_cases hkey : key = name
    · subst hkey
      rw [List.filter_cons_of_neg (by simp), ih, List.lookup_cons, beq_false_of_ne h]
    · rw [List.filter_cons_of_pos (by simpa using hkey), List.lookup_cons, List.lookup_cons, ih]

@[simp] theorem get?_without_self (things : Named α) (name : String) : (things.without name).get? name = none := by
  induction things with
  | nil => rfl
  | cons thing rest ih =>
    unfold without get? at *
    by_cases hkey : thing.1 = name
    · rw [List.filter_cons_of_neg (by simp [hkey]), ih]
    · rw [List.filter_cons_of_pos (by simpa using hkey), List.lookup_cons, beq_false_of_ne (Ne.symm hkey), ih]

@[simp] theorem get?_put_self (things : Named α) (name : String) (a : α) :
    (things.put name a).get? name = some a := by
  simp [put, get?]

theorem get?_put_of_ne (things : Named α) (a : α) {name other : String} (h : other ≠ name) :
    (things.put name a).get? other = things.get? other := by
  rw [← get?_without things h]
  simp only [put, get?, List.lookup_cons, beq_false_of_ne h]

/-! ## The names -/

theorem names_without (things : Named α) (name : String) :
    (things.without name).map Prod.fst = (things.map Prod.fst).filter (· != name) := by
  rw [List.filter_map]
  rfl

theorem nodup_names_without (h : (things.map Prod.fst).Nodup) (name : String) :
    ((things.without name).map Prod.fst).Nodup := by
  rw [names_without]
  exact h.filter _

theorem nodup_names_put (h : (things.map Prod.fst).Nodup) (name : String) (a : α) :
    ((things.put name a).map Prod.fst).Nodup := by
  refine List.nodup_cons.mpr ⟨?_, nodup_names_without h name⟩
  rw [names_without]
  simp

/-- The name of something is one of the names. -/
theorem mem_names {a : α} (h : things.get? name = some a) : name ∈ things.map Prod.fst := by
  obtain ⟨before, after, hthings, -⟩ := List.lookup_eq_some_iff.mp h
  rw [hthings]
  simp

/-- If nothing has a name, nothing is taken away with it. -/
theorem without_eq_self (h : things.get? name = none) : things.without name = things :=
  List.filter_eq_self.mpr fun thing hthing => by
    rw [bne_comm]
    exact List.lookup_eq_none_iff.mp h thing hthing

/-- Without a thing that has a name there is one thing less. -/
theorem length_without (hnames : (things.map Prod.fst).Nodup) {a : α} (h : things.get? name = some a) :
    (things.without name).length + 1 = things.length := by
  have hmem := mem_names h
  have hpositive : 0 < (things.map Prod.fst).length := List.length_pos_of_mem hmem
  rw [← List.length_map Prod.fst, names_without, ← hnames.erase_eq_filter, List.length_erase_of_mem hmem,
    Nat.sub_add_cancel hpositive, List.length_map]

end DecoderHost.Named

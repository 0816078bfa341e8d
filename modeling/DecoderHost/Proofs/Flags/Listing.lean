import DecoderHost.Flags
import Mathlib.Data.List.Nodup

/-!
# What a value of a bit field comes to

A value is listed as names and an unnamed rest. Names may share bits, so that what is listed depends on the order of
their declaration. The order is a good one if the first name for a bit stands for that bit alone (`SinglesFirst`): then
each set bit that has a name is listed once, by the first name that stands for it alone, and nothing is lost or told
twice (`SinglesFirst.decomposes`).
-/

namespace DecoderHost.Flag

variable {width : Nat} {flag : Flag width} {flags : List (Flag width)} {source covered value : BitVec width}

/-! ## Declarations -/

/-- The first name that stands for this bit and for no other. -/
def nameOf? (flags : List (Flag width)) (i : Nat) : Option (Flag width) :=
  flags.find? fun flag => flag.bits == BitVec.twoPow width i

theorem bits_of_nameOf? {i : Nat} (h : nameOf? flags i = some flag) : flag.bits = BitVec.twoPow width i := by
  simpa using List.find?_some h

/-- The first name for a bit that is not covered yet stands for that bit alone. -/
def SinglesFirst (covered : BitVec width) (flags : List (Flag width)) : Prop :=
  ∀ i < width, covered.getLsbD i = false →
    ∀ flag ∈ flags.find? (fun flag => flag.bits.getLsbD i), flag.bits = BitVec.twoPow width i

instance (covered : BitVec width) (flags : List (Flag width)) : Decidable (SinglesFirst covered flags) :=
  inferInstanceAs (Decidable (∀ i < width, _))

/-- **A value in its parts.** The bits of the listed names and the unnamed rest share nothing and make up the value.
For each set bit the name is listed that stands for it alone and is declared first, and no other; so each bit that any
name covers has such a name. The rest holds no bit that a name covers, and a value without a rest is all named. -/
structure Decomposes (flags : List (Flag width)) (value : BitVec width) : Prop where
  disjoint : ((listed flags value).map Flag.bits ++ [unnamed flags value]).Pairwise fun a b => a &&& b = 0
  total : ((listed flags value).map Flag.bits ++ [unnamed flags value]).foldr (· ||| ·) 0 = value
  names : (listed flags value).Perm
    ((List.range width).filterMap fun i => if value.getLsbD i then nameOf? flags i else none)
  order : (listed flags value).Sublist flags
  named : ∀ i < width, (union flags).getLsbD i = (nameOf? flags i).isSome
  rest : unnamed flags value &&& union flags = 0
  exactly : exactly? flags value = if unnamed flags value = 0 then some value else none

/-! ## Bits -/

/-- Values share no bit just if none that is set in the one is set in the other. -/
theorem and_eq_zero_iff {a b : BitVec width} : a &&& b = 0 ↔ ∀ i, a.getLsbD i = true → b.getLsbD i = false := by
  constructor
  · intro h i ha
    have hbit : (a &&& b).getLsbD i = false := by simp [h]
    simpa [BitVec.getLsbD_and, ha] using hbit
  · intro h
    apply BitVec.eq_of_getLsbD_eq
    intro i _
    cases ha : a.getLsbD i with
    | false => simp [ha]
    | true => simp [ha, h i ha]

/-- Two values that meet have a bit in common. -/
theorem exists_of_and_ne_zero {a b : BitVec width} (h : a &&& b ≠ 0) :
    ∃ i, a.getLsbD i = true ∧ b.getLsbD i = true := by
  by_contra hnone
  refine h (and_eq_zero_iff.mpr fun i ha => ?_)
  by_contra hb
  exact hnone ⟨i, ha, by simpa using hb⟩

/-- A bit is open if it is set and not covered. -/
theorem getLsbD_open : (source &&& ~~~covered).getLsbD i = true ↔ source.getLsbD i = true ∧ covered.getLsbD i = false := by
  rw [BitVec.getLsbD_and, BitVec.getLsbD_not, Bool.and_eq_true, Bool.and_eq_true, Bool.not_eq_true']
  exact and_congr_right fun hsource => and_iff_right (by simpa using BitVec.lt_of_getLsbD hsource)

/-- Only its own bit is set in the value of a single bit. -/
theorem eq_of_getLsbD_twoPow {i j : Nat} (h : (BitVec.twoPow width i).getLsbD j = true) : i = j := by
  rw [BitVec.getLsbD_twoPow, Bool.and_eq_true] at h
  simpa using h.2

theorem getLsbD_twoPow_self {i : Nat} (h : i < width) : (BitVec.twoPow width i).getLsbD i = true := by
  simp [h]

/-- Nothing is taken from a value by bits that it does not have. -/
theorem and_not_of_and_eq_zero {a b : BitVec width} (h : a &&& b = 0) : b &&& ~~~a = b := by
  apply BitVec.eq_of_getLsbD_eq
  intro i hi
  rw [BitVec.getLsbD_and, BitVec.getLsbD_not, decide_eq_true hi, Bool.true_and]
  cases ha : a.getLsbD i with
  | false => exact Bool.and_true _
  | true => rw [and_eq_zero_iff.mp h i ha, Bool.false_and]

/-! ## One name -/

theorem SinglesFirst.tail (h : SinglesFirst covered (flag :: flags)) : SinglesFirst (covered ||| flag.bits) flags := by
  intro i hi hnew other hother
  rw [BitVec.getLsbD_or, Bool.or_eq_false_iff] at hnew
  apply h i hi hnew.1
  rw [List.find?_cons, hnew.2]
  exact hother

/-- The name at the head stands for one bit, unless all its bits are covered. -/
theorem SinglesFirst.head {i : Nat} (h : SinglesFirst covered (flag :: flags)) (hflag : flag.bits.getLsbD i = true)
    (hnew : covered.getLsbD i = false) : flag.bits = BitVec.twoPow width i := by
  apply h i (BitVec.lt_of_getLsbD hflag) hnew
  rw [List.find?_cons, hflag]
  rfl

/-- A step of the walk: the name at the head is listed if one of its bits is open. -/
theorem SinglesFirst.walk_cons (h : SinglesFirst covered (flag :: flags)) (source : BitVec width) :
    walk source (flag :: flags) (source &&& ~~~covered) =
      ((if flag.bits &&& (source &&& ~~~covered) = 0 then [] else [flag]) ++
          (walk source flags (source &&& ~~~(covered ||| flag.bits))).1,
        (walk source flags (source &&& ~~~(covered ||| flag.bits))).2) := by
  have hrest : source &&& ~~~covered &&& ~~~flag.bits = source &&& ~~~(covered ||| flag.bits) := by
    rw [BitVec.and_assoc, BitVec.not_or]
  by_cases hzero : flag.bits &&& (source &&& ~~~covered) = 0
  · rw [walk, if_neg (fun hlisted => hlisted.2 hzero), if_pos hzero, ← hrest, and_not_of_and_eq_zero hzero]
    rfl
  · obtain ⟨i, hflag, hopen⟩ := exists_of_and_ne_zero hzero
    obtain ⟨hsource, hnew⟩ := getLsbD_open.mp hopen
    -- One bit of the name is set and new, so there are no others.
    have hinside : flag.bits &&& source = flag.bits := by
      rw [h.head hflag hnew, BitVec.twoPow_and, if_pos hsource]
    rw [walk, if_pos ⟨hinside, hzero⟩, if_neg hzero, hrest]
    rfl

/-! ## All names -/

theorem getLsbD_union (flags : List (Flag width)) (i : Nat) :
    (union flags).getLsbD i = (flags.find? fun flag => flag.bits.getLsbD i).isSome := by
  induction flags with
  | nil => simp [union]
  | cons flag flags ih =>
    rw [List.find?_cons]
    show (flag.bits ||| union flags).getLsbD i = _
    rw [BitVec.getLsbD_or, ih]
    cases flag.bits.getLsbD i <;> rfl

/-- What is left are the set bits that no name covers. -/
theorem SinglesFirst.left_eq (h : SinglesFirst covered flags) :
    (walk source flags (source &&& ~~~covered)).2 = source &&& ~~~(covered ||| union flags) := by
  induction flags generalizing covered with
  | nil => simp [walk, union]
  | cons flag flags ih =>
    rw [h.walk_cons, ih h.tail, BitVec.or_assoc]
    rfl

/-- The listed names are those that come first for an open bit. -/
theorem SinglesFirst.mem_walk_iff (h : SinglesFirst covered flags) {name : Flag width} :
    name ∈ (walk source flags (source &&& ~~~covered)).1 ↔
      ∃ i, (source &&& ~~~covered).getLsbD i = true ∧ flags.find? (fun flag => flag.bits.getLsbD i) = some name := by
  induction flags generalizing covered with
  | nil => simp [walk]
  | cons flag flags ih =>
    rw [h.walk_cons, List.mem_append, ih h.tail]
    simp only [getLsbD_open, BitVec.getLsbD_or, Bool.or_eq_false_iff, List.find?_cons]
    constructor
    · rintro (hname | ⟨i, ⟨hsource, hcovered, hflag⟩, hfind⟩)
      · split at hname
        · cases hname
        · next hnonzero =>
          obtain rfl := List.mem_singleton.mp hname
          obtain ⟨i, hflag, hopen⟩ := exists_of_and_ne_zero hnonzero
          exact ⟨i, getLsbD_open.mp hopen, by rw [hflag]⟩
      · exact ⟨i, ⟨hsource, hcovered⟩, by rw [hflag, hfind]⟩
    · rintro ⟨i, ⟨hsource, hcovered⟩, hfind⟩
      cases hflag : flag.bits.getLsbD i with
      | true =>
        have hnonzero : flag.bits &&& (source &&& ~~~covered) ≠ 0 := by
          intro hzero
          have hclosed := and_eq_zero_iff.mp hzero i hflag
          rw [getLsbD_open.mpr ⟨hsource, hcovered⟩] at hclosed
          cases hclosed
        rw [hflag] at hfind
        obtain rfl := Option.some.inj hfind
        rw [if_neg hnonzero]
        exact .inl (List.mem_singleton_self _)
      | false =>
        rw [hflag] at hfind
        exact .inr ⟨i, ⟨hsource, hcovered, hflag⟩, hfind⟩

/-- Names are listed in the order of their declaration. -/
theorem walk_sublist (source : BitVec width) (flags : List (Flag width)) (rest : BitVec width) :
    (walk source flags rest).1.Sublist flags := by
  induction flags generalizing rest with
  | nil => exact .slnil
  | cons flag flags ih =>
    rw [walk]
    split
    · exact (ih _).cons_cons flag
    · exact (ih _).cons flag

/-- A listed name stands for one open bit. -/
theorem SinglesFirst.bits_of_mem_walk (h : SinglesFirst covered flags) {name : Flag width}
    (hname : name ∈ (walk source flags (source &&& ~~~covered)).1) :
    ∃ i, (source &&& ~~~covered).getLsbD i = true ∧ name.bits = BitVec.twoPow width i := by
  obtain ⟨i, hopen, hfind⟩ := h.mem_walk_iff.mp hname
  have hnew := (getLsbD_open.mp hopen).2
  exact ⟨i, hopen, h i (BitVec.lt_of_getLsbD hopen) hnew name hfind⟩

/-- No two listed names share a bit. -/
theorem SinglesFirst.pairwise_walk (h : SinglesFirst covered flags) :
    ((walk source flags (source &&& ~~~covered)).1.map Flag.bits).Pairwise fun a b => a &&& b = 0 := by
  induction flags generalizing covered with
  | nil => exact .nil
  | cons flag flags ih =>
    rw [h.walk_cons, List.map_append, List.pairwise_append]
    refine ⟨by split <;> simp, ih h.tail, ?_⟩
    intro a ha b hb
    obtain ⟨first, hfirst, rfl⟩ := List.mem_map.mp ha
    obtain ⟨other, hother, rfl⟩ := List.mem_map.mp hb
    have hflag : first = flag := by
      split at hfirst
      · cases hfirst
      · exact List.mem_singleton.mp hfirst
    obtain ⟨i, hopen, hbits⟩ := h.tail.bits_of_mem_walk hother
    rw [hflag, hbits, and_eq_zero_iff]
    intro j hj
    by_contra htwo
    obtain rfl := eq_of_getLsbD_twoPow (by simpa using htwo)
    have hnew := (getLsbD_open.mp hopen).2
    rw [BitVec.getLsbD_or, hj, Bool.or_true] at hnew
    cases hnew

/-! ## Values -/

/-- The first name for a bit is the first that stands for it alone. -/
theorem SinglesFirst.nameOf?_eq {i : Nat} (h : SinglesFirst covered flags) (hi : i < width)
    (hnew : covered.getLsbD i = false) : nameOf? flags i = flags.find? fun flag => flag.bits.getLsbD i := by
  induction flags generalizing covered with
  | nil => rfl
  | cons flag flags ih =>
    rw [nameOf?, List.find?_cons, List.find?_cons]
    cases hflag : flag.bits.getLsbD i with
    | true =>
      rw [beq_iff_eq.mpr (h.head hflag hnew)]
    | false =>
      have hne : (flag.bits == BitVec.twoPow width i) = false := by
        rw [beq_eq_false_iff_ne]
        intro heq
        rw [heq, getLsbD_twoPow_self hi] at hflag
        cases hflag
      rw [hne]
      exact ih h.tail (by rw [BitVec.getLsbD_or, hnew, hflag]; rfl)

/-- The walk over a value begins with all its bits open. -/
theorem listed_eq (flags : List (Flag width)) (value : BitVec width) :
    listed flags value = (walk value flags (value &&& ~~~0)).1 := by
  simp [listed]

/-- The unnamed rest are the bits that no name covers. -/
theorem SinglesFirst.unnamed_eq (h : SinglesFirst 0 flags) (value : BitVec width) :
    unnamed flags value = value &&& ~~~union flags := by
  have hleft : (walk value flags (value &&& ~~~0)).2 = value &&& ~~~(0 ||| union flags) := h.left_eq
  simpa [unnamed] using hleft

theorem SinglesFirst.mem_listed_iff (h : SinglesFirst 0 flags) {name : Flag width} :
    name ∈ listed flags value ↔ ∃ i, value.getLsbD i = true ∧ nameOf? flags i = some name := by
  rw [listed_eq, h.mem_walk_iff]
  refine exists_congr fun i => ?_
  simp only [getLsbD_open, BitVec.ofNat_eq_ofNat, BitVec.getLsbD_zero, and_true]
  refine and_congr_right fun hi => ?_
  rw [h.nameOf?_eq (BitVec.lt_of_getLsbD hi) BitVec.getLsbD_zero]

theorem SinglesFirst.bits_of_mem_listed (h : SinglesFirst 0 flags) {name : Flag width}
    (hname : name ∈ listed flags value) : ∃ i, value.getLsbD i = true ∧ name.bits = BitVec.twoPow width i := by
  rw [listed_eq] at hname
  obtain ⟨i, hopen, hbits⟩ := h.bits_of_mem_walk hname
  exact ⟨i, (getLsbD_open.mp hopen).1, hbits⟩

/-- A bit of a union is that of one of its members. -/
theorem getLsbD_foldr_or (values : List (BitVec width)) (i : Nat) :
    (values.foldr (· ||| ·) 0).getLsbD i = values.any fun value => value.getLsbD i := by
  induction values with
  | nil => simp
  | cons value values ih => rw [List.foldr_cons, BitVec.getLsbD_or, ih, List.any_cons]

/-- The parts of a value make it up. -/
theorem SinglesFirst.total (h : SinglesFirst 0 flags) (value : BitVec width) :
    ((listed flags value).map Flag.bits ++ [unnamed flags value]).foldr (· ||| ·) 0 = value := by
  apply BitVec.eq_of_getLsbD_eq
  intro i hi
  rw [getLsbD_foldr_or, Bool.eq_iff_iff, List.any_append, Bool.or_eq_true, List.any_map, List.any_eq_true,
    List.any_eq_true]
  constructor
  · rintro (⟨name, hname, hbit⟩ | ⟨part, hpart, hbit⟩)
    · obtain ⟨j, hj, hbits⟩ := h.bits_of_mem_listed hname
      rw [Function.comp_apply, hbits] at hbit
      exact eq_of_getLsbD_twoPow hbit ▸ hj
    · rw [List.mem_singleton.mp hpart, h.unnamed_eq] at hbit
      exact (getLsbD_open.mp hbit).1
  · intro hvalue
    cases hnamed : (union flags).getLsbD i with
    | false =>
      refine .inr ⟨_, List.mem_singleton_self _, ?_⟩
      rw [h.unnamed_eq]
      exact getLsbD_open.mpr ⟨hvalue, hnamed⟩
    | true =>
      rw [getLsbD_union, ← h.nameOf?_eq hi BitVec.getLsbD_zero, Option.isSome_iff_exists] at hnamed
      obtain ⟨name, hname⟩ := hnamed
      refine .inl ⟨name, h.mem_listed_iff.mpr ⟨i, hvalue, hname⟩, ?_⟩
      rw [Function.comp_apply, bits_of_nameOf? hname]
      exact getLsbD_twoPow_self hi

/-- The listed names and the rest share nothing. -/
theorem SinglesFirst.disjoint (h : SinglesFirst 0 flags) (value : BitVec width) :
    ((listed flags value).map Flag.bits ++ [unnamed flags value]).Pairwise fun a b => a &&& b = 0 := by
  rw [List.pairwise_append]
  refine ⟨listed_eq flags value ▸ h.pairwise_walk, List.pairwise_singleton _ _, ?_⟩
  intro a ha b hb
  obtain ⟨name, hname, rfl⟩ := List.mem_map.mp ha
  rw [List.mem_singleton.mp hb, h.unnamed_eq, and_eq_zero_iff]
  intro i hbit
  by_contra hrest
  have hunnamed := (getLsbD_open.mp (by simpa using hrest)).2
  have hfind : (flags.find? fun flag => flag.bits.getLsbD i).isSome = true :=
    List.find?_isSome.mpr ⟨name, (walk_sublist value flags value).subset hname, hbit⟩
  rw [getLsbD_union, hfind] at hunnamed
  cases hunnamed

/-- No name is listed twice. -/
theorem SinglesFirst.nodup_listed (h : SinglesFirst 0 flags) (value : BitVec width) : (listed flags value).Nodup := by
  have hpairs := (List.pairwise_append.mp (h.disjoint value)).1
  apply List.Nodup.of_map Flag.bits
  refine hpairs.imp_of_mem ?_
  rintro a b ha hb hdisjoint rfl
  obtain ⟨name, hname, rfl⟩ := List.mem_map.mp ha
  obtain ⟨i, hi, hbits⟩ := h.bits_of_mem_listed hname
  have hself := getLsbD_twoPow_self (BitVec.lt_of_getLsbD hi)
  rw [hbits] at hdisjoint
  rw [and_eq_zero_iff.mp hdisjoint i hself] at hself
  cases hself

/-- One name is listed for each set bit that has a name. -/
theorem SinglesFirst.names (h : SinglesFirst 0 flags) (value : BitVec width) :
    (listed flags value).Perm
      ((List.range width).filterMap fun i => if value.getLsbD i then nameOf? flags i else none) := by
  have hfind : ∀ {i name}, (name ∈ if value.getLsbD i then nameOf? flags i else none) →
      value.getLsbD i = true ∧ nameOf? flags i = some name := by
    intro i name hname
    split at hname
    · next hi => exact ⟨hi, hname⟩
    · cases hname
  have hnodup : ((List.range width).filterMap fun i => if value.getLsbD i then nameOf? flags i else none).Nodup := by
    refine List.nodup_range.filterMap ?_
    intro i j name hi hj
    obtain ⟨hi, hname⟩ := hfind hi
    have hself := getLsbD_twoPow_self (BitVec.lt_of_getLsbD hi)
    rw [← bits_of_nameOf? hname, bits_of_nameOf? (hfind hj).2] at hself
    exact (eq_of_getLsbD_twoPow hself).symm
  rw [List.perm_ext_iff_of_nodup (h.nodup_listed value) hnodup]
  intro name
  rw [h.mem_listed_iff, List.mem_filterMap]
  constructor
  · rintro ⟨i, hi, hname⟩
    exact ⟨i, List.mem_range.mpr (BitVec.lt_of_getLsbD hi), by rw [if_pos hi, hname]⟩
  · rintro ⟨i, -, hname⟩
    exact ⟨i, hfind hname⟩

/-- A value has no rest if and only if names cover all its bits. -/
theorem SinglesFirst.exactly (h : SinglesFirst 0 flags) (value : BitVec width) :
    exactly? flags value = if unnamed flags value = 0 then some value else none := by
  rw [exactly?, truncate, h.unnamed_eq]
  have hall : value &&& union flags = value ↔ value &&& ~~~union flags = 0 := by
    constructor
    · intro hvalue
      rw [← hvalue, BitVec.and_assoc]
      simp
    · intro hzero
      rw [BitVec.and_comm] at hzero
      simpa using and_not_of_and_eq_zero hzero
  simp only [hall]

/-- **Nothing is lost and nothing told twice.** -/
theorem SinglesFirst.decomposes (h : SinglesFirst 0 flags) (value : BitVec width) : Decomposes flags value where
  disjoint := h.disjoint value
  total := h.total value
  names := h.names value
  order := walk_sublist value flags value
  named i hi := by rw [getLsbD_union, h.nameOf?_eq hi BitVec.getLsbD_zero]
  rest := by
    rw [h.unnamed_eq, BitVec.and_assoc]
    simp
  exactly := h.exactly value

end DecoderHost.Flag

import DecoderHost.Memory

/-!
# Reading what was written

A memory is looked at byte by byte through `byteAt`, which gives zero past the end. `slice` is a run of such
bytes, and `patch` puts a list of bytes in their place: it is read back where it was put and changes no byte
elsewhere. A word is the number that a slice spells, whatever its width, so all that is said of reads after writes
comes from these two facts. Patches that come to the same bytes are the same memory: a list may be put part by part,
and lists in ranges apart from each other in either order.
-/

namespace DecoderHost.Memory

/-- The byte at an index; a byte past the end counts as zero. -/
def byteAt (m : Memory) (i : Nat) : UInt8 := (m.get? i).getD 0

theorem getElem?_data (bytes : ByteArray) (i : Nat) : bytes[i]? = bytes.data[i]? := by
  by_cases hi : i < bytes.size
  · rw [getElem?_pos bytes i hi, getElem?_pos bytes.data i hi]
    rfl
  · rw [getElem?_neg bytes i hi, getElem?_neg bytes.data i hi]

theorem getElem?_set (target : ByteArray) (i : Nat) (b : UInt8) (h : i < target.size) (j : Nat) :
    (target.set i b h)[j]? = if i = j then some b else target[j]? := by
  rw [getElem?_data, getElem?_data, ByteArray.data_set, Array.getElem?_set]

theorem getElem?_overwrite (source : List UInt8) (i : Nat) (target : ByteArray) (j : Nat) :
    (overwrite source i target)[j]? =
      if i ≤ j ∧ j < i + source.length ∧ j < target.size then source[j - i]? else target[j]? := by
  induction source generalizing i target with
  | nil =>
    rw [if_neg (by simp only [List.length_nil]; omega)]
    rfl
  | cons b rest ih =>
    simp only [overwrite]
    split
    · rename_i h
      -- Setting one byte does not change where the end is, which decides what the rest may overwrite.
      have hsize : (target.set i b h).size = target.size := by
        rw [← ByteArray.size_data, ByteArray.data_set, Array.size_set, ByteArray.size_data]
      rw [ih, getElem?_set, hsize, List.length_cons]
      by_cases hj : j = i
      · subst hj
        rw [if_neg (by omega), if_pos rfl, if_pos (by omega), Nat.sub_self, List.getElem?_cons_zero]
      · rw [if_neg (Ne.symm hj)]
        by_cases hin : i + 1 ≤ j ∧ j < i + 1 + rest.length ∧ j < target.size
        · rw [if_pos hin, if_pos (by omega), show j - i = (j - (i + 1)) + 1 by omega,
            List.getElem?_cons_succ]
        · rw [if_neg hin, if_neg (by omega)]
    · rw [if_neg (by omega)]

theorem byteAt_patch (m : Memory) (start : Nat) (source : List UInt8) (i : Nat) :
    (m.patch start source).byteAt i =
      if start ≤ i ∧ i < start + source.length ∧ i < m.size then source[i - start]?.getD 0
      else m.byteAt i := by
  show ((overwrite source start m.bytes)[i]?).getD 0 = _
  rw [getElem?_overwrite]
  by_cases h : start ≤ i ∧ i < start + source.length ∧ i < m.bytes.size
  · rw [if_pos h, if_pos (show _ ∧ _ ∧ i < m.size from h)]
  · rw [if_neg h, if_neg (show ¬ (_ ∧ _ ∧ i < m.size) from h)]
    rfl

theorem get?_eq (m : Memory) (i : Nat) : m.get? i = if i < m.size then some (m.byteAt i) else none := by
  simp only [byteAt, get?, size]
  by_cases h : i < m.bytes.size <;> simp [h]

theorem get?_eq_some {m : Memory} {i : Nat} {b : UInt8} :
    m.get? i = some b ↔ i < m.size ∧ m.byteAt i = b := by
  rw [get?_eq]
  by_cases h : i < m.size <;> simp [h]

/-! ## Ranges -/

/-- Below the end of the address space, adding to an address does not wrap around. -/
theorem toNat_add_ofNat {a : UInt32} {i : Nat} (h : a.toNat + i < 4294967296) :
    (a + UInt32.ofNat i).toNat = a.toNat + i := by
  rw [UInt32.toNat_add, UInt32.toNat_ofNat', Nat.mod_eq_of_lt (show i < 4294967296 by omega)]
  exact Nat.mod_eq_of_lt h

/-- Does an index lie in the range of `length` bytes from `start`? -/
def Within (start length i : Nat) : Prop := start ≤ i ∧ i < start + length

/-- Two ranges have no index in common. An empty range is apart from every other, wherever it lies. -/
def Apart (start length start' length' : Nat) : Prop :=
  ∀ i, ¬ (Within start length i ∧ Within start' length' i)

/-- Ranges of which one ends before the other begins. -/
theorem Apart.of_le {start length start' length' : Nat}
    (h : start + length ≤ start' ∨ start' + length' ≤ start) : Apart start length start' length' := by
  rintro i ⟨⟨hlow, hhigh⟩, hlow', hhigh'⟩
  omega

/-- What is put into a range changes no byte outside of it. -/
theorem byteAt_patch_of_not_within {m : Memory} {start i : Nat} {source : List UInt8}
    (h : ¬ Within start source.length i) : (m.patch start source).byteAt i = m.byteAt i := by
  rw [byteAt_patch, if_neg fun hin => h ⟨hin.1, hin.2.1⟩]

theorem get?_patch_of_not_within {m : Memory} {start i : Nat} {source : List UInt8}
    (h : ¬ Within start source.length i) : (m.patch start source).get? i = m.get? i := by
  rw [get?_eq, get?_eq, size_patch, byteAt_patch_of_not_within h]

/-! ## Slices -/

@[simp] theorem length_slice (m : Memory) (start length : Nat) :
    (m.slice start length).length = length := by
  simp [slice]

theorem getElem_slice (m : Memory) (start length i : Nat) (h : i < (m.slice start length).length) :
    (m.slice start length)[i] = m.byteAt (start + i) := by
  simp [slice, byteAt]

/-- Slices of one length are equal if their bytes are. -/
theorem slice_ext {m m' : Memory} {a b length : Nat}
    (h : ∀ i < length, m.byteAt (a + i) = m'.byteAt (b + i)) :
    m.slice a length = m'.slice b length := by
  apply List.ext_getElem
  · rw [length_slice, length_slice]
  · intro i hi _
    rw [getElem_slice, getElem_slice]
    exact h i (by simpa using hi)

/-- A list of bytes is a slice if it agrees with the memory byte by byte. -/
theorem slice_eq_of_byteAt {m : Memory} {start : Nat} {bytes : List UInt8}
    (h : ∀ i, (hi : i < bytes.length) → m.byteAt (start + i) = bytes[i]) :
    m.slice start bytes.length = bytes := by
  apply List.ext_getElem
  · rw [length_slice]
  · intro i _ hi
    rw [getElem_slice]
    exact h i hi

@[simp] theorem slice_zero (m : Memory) (start : Nat) : m.slice start 0 = [] := rfl

theorem slice_succ (m : Memory) (start length : Nat) :
    m.slice start (length + 1) = m.byteAt start :: m.slice (start + 1) length := by
  apply List.ext_getElem
  · simp
  · intro i hi _
    cases i with
    | zero => rw [getElem_slice]; rfl
    | succ i =>
      rw [getElem_slice, List.getElem_cons_succ, getElem_slice]
      congr 1
      omega

/-- What was put into a memory is read back from where it was put. -/
theorem slice_patch_self {m : Memory} {start : Nat} {source : List UInt8}
    (h : start + source.length ≤ m.size) :
    (m.patch start source).slice start source.length = source := by
  apply slice_eq_of_byteAt
  intro i hi
  rw [byteAt_patch, if_pos (by omega), Nat.add_sub_cancel_left, List.getElem?_eq_getElem hi,
    Option.getD_some]

/-- A slice apart from what was put into a memory is as it was. -/
theorem slice_patch_apart {m : Memory} {start : Nat} {source : List UInt8} {a length : Nat}
    (h : Apart a length start source.length) : (m.patch start source).slice a length = m.slice a length := by
  apply slice_ext
  intro i hi
  have hin : Within a length (a + i) := ⟨by omega, by omega⟩
  exact byteAt_patch_of_not_within fun hin' => h (a + i) ⟨hin, hin'⟩

/-- A slice beside what was put into a memory is as it was. -/
theorem slice_patch_disjoint {m : Memory} {start : Nat} {source : List UInt8} {a length : Nat}
    (h : a + length ≤ start ∨ start + source.length ≤ a) :
    (m.patch start source).slice a length = m.slice a length :=
  slice_patch_apart (.of_le h)

theorem slice_add (m : Memory) (start a b : Nat) :
    m.slice start (a + b) = m.slice start a ++ m.slice (start + a) b := by
  induction a generalizing start with
  | zero => simp
  | succ a ih =>
    rw [show a + 1 + b = (a + b) + 1 by omega, slice_succ, slice_succ, ih, List.cons_append]
    congr 3
    omega

theorem drop_slice (m : Memory) (start length k : Nat) :
    (m.slice start length).drop k = m.slice (start + k) (length - k) := by
  apply List.ext_getElem
  · simp
  · intro i _ _
    rw [List.getElem_drop, getElem_slice, getElem_slice, Nat.add_assoc]

/-! ## Patches -/

/-- Memories of one size are equal if their bytes are. -/
theorem eq_of_byteAt {m m' : Memory} (hsize : m.size = m'.size) (h : ∀ i < m.size, m.byteAt i = m'.byteAt i) :
    m = m' := by
  obtain ⟨bytes, hle⟩ := m
  obtain ⟨bytes', hle'⟩ := m'
  have hbytes : bytes = bytes' := by
    apply ByteArray.ext_getElem
    · exact hsize
    · intro i hi hi'
      have hbyte := h i hi
      simpa [byteAt, get?, hi, hi'] using hbyte
  subst hbytes
  rfl

/-- Bytes that are put where they already are change nothing. -/
theorem patch_slice (m : Memory) (start length : Nat) : m.patch start (m.slice start length) = m := by
  apply eq_of_byteAt
  · exact size_patch ..
  · intro i _
    rw [byteAt_patch]
    split
    · next h =>
      have hi : i - start < (m.slice start length).length := by omega
      rw [List.getElem?_eq_getElem hi, Option.getD_some, getElem_slice, show start + (i - start) = i by omega]
    · rfl

/-- A list may be put into a memory part by part. -/
theorem patch_append (m : Memory) (start : Nat) (first second : List UInt8) :
    m.patch start (first ++ second) = (m.patch start first).patch (start + first.length) second := by
  apply eq_of_byteAt
  · simp only [size_patch]
  · intro i hi
    rw [size_patch] at hi
    simp only [byteAt_patch, size_patch, List.length_append]
    -- A byte of the memory lies in the second list, in the first, or in neither.
    by_cases hsecond : start + first.length ≤ i ∧ i < start + first.length + second.length
    · rw [if_pos (by omega), if_pos (by omega), List.getElem?_append_right (by omega), Nat.sub_sub]
    · rw [if_neg (by omega : ¬ (start + first.length ≤ i ∧ i < start + first.length + second.length ∧ i < m.size))]
      by_cases hfirst : start ≤ i ∧ i < start + first.length
      · rw [if_pos (by omega), if_pos (by omega), List.getElem?_append_left (by omega)]
      · rw [if_neg (by omega), if_neg (by omega)]

/-- Lists that are put into ranges apart from each other may be put there in either order. -/
theorem patch_comm (m : Memory) {start start' : Nat} {source source' : List UInt8}
    (h : Apart start source.length start' source'.length) :
    (m.patch start source).patch start' source' = (m.patch start' source').patch start source := by
  apply eq_of_byteAt
  · simp only [size_patch]
  · intro i _
    by_cases hin : Within start source.length i
    · have hout : ¬ Within start' source'.length i := fun hin' => h i ⟨hin, hin'⟩
      rw [byteAt_patch_of_not_within hout, byteAt_patch m, byteAt_patch (m.patch start' source'), size_patch,
        byteAt_patch_of_not_within hout]
    · rw [byteAt_patch_of_not_within hin, byteAt_patch m, byteAt_patch (m.patch start source), size_patch,
        byteAt_patch_of_not_within hin]

/-! ## Checked access -/

theorem read_eq_ok {m : Memory} {address : UInt32} {length : Nat} {bytes : List UInt8} :
    m.read address length = .ok bytes ↔
      address.toNat + length ≤ m.size ∧ m.slice address.toNat length = bytes := by
  simp only [read, covers, decide_eq_true_eq]
  split
  · simp [*]
  · simp only [reduceCtorEq, false_iff]
    omega

theorem write_eq_ok {m m' : Memory} {address : UInt32} {source : List UInt8} :
    m.write address source = .ok m' ↔
      address.toNat + source.length ≤ m.size ∧ m.patch address.toNat source = m' := by
  simp only [write, covers, decide_eq_true_eq]
  split
  · simp [*]
  · simp only [reduceCtorEq, false_iff]
    omega

theorem readByte_eq_ok {m : Memory} {address : UInt32} {b : UInt8} :
    m.readByte address = .ok b ↔ address.toNat < m.size ∧ m.byteAt address.toNat = b := by
  rw [← get?_eq_some, readByte]
  cases m.get? address.toNat <;> simp

theorem read_eq_error {m : Memory} {address : UInt32} {length : Nat} (h : ¬ (address.toNat + length ≤ m.size)) :
    m.read address length = .error ⟨address, length, m.size⟩ := by
  rw [read, if_neg (by simpa [covers] using h)]

theorem write_eq_error {m : Memory} {address : UInt32} {source : List UInt8}
    (h : ¬ (address.toNat + source.length ≤ m.size)) :
    m.write address source = .error ⟨address, source.length, m.size⟩ := by
  rw [write, if_neg (by simpa [covers] using h)]

theorem readByte_eq_error {m : Memory} {address : UInt32} (h : ¬ (address.toNat + 1 ≤ m.size)) :
    m.readByte address = .error ⟨address, 1, m.size⟩ := by
  cases hbyte : m.readByte address with
  | ok b => exact absurd (readByte_eq_ok.mp hbyte).1 (by omega)
  | error e =>
    rw [readByte] at hbyte
    cases hget : m.get? address.toNat with
    | some b => simp [hget] at hbyte
    | none => simpa [hget] using hbyte.symm

theorem editAll_cons_eq_ok {edit : Memory → Except OutOfBounds Memory}
    {rest : List (Memory → Except OutOfBounds Memory)} {m m' : Memory} :
    editAll (edit :: rest) m = (.ok (), m') ↔
      ∃ edited, edit m = .ok edited ∧ editAll rest edited = (.ok (), m') := by
  simp only [editAll]
  cases edit m <;> simp

theorem editAll_nil_eq_ok {m m' : Memory} : editAll [] m = (.ok (), m') ↔ m = m' := by
  simp [editAll]

/-- Of edits in turn, a write puts its bytes into its range, which lies inside the memory, and the others follow. -/
theorem editAll_write_eq_ok {address : UInt32} {source : List UInt8}
    {rest : List (Memory → Except OutOfBounds Memory)} {m m' : Memory} :
    editAll ((fun m => m.write address source) :: rest) m = (.ok (), m') ↔
      address.toNat + source.length ≤ m.size ∧ editAll rest (m.patch address.toNat source) = (.ok (), m') := by
  rw [editAll_cons_eq_ok]
  constructor
  · rintro ⟨edited, hwrite, hrest⟩
    obtain ⟨hfits, rfl⟩ := write_eq_ok.mp hwrite
    exact ⟨hfits, hrest⟩
  · rintro ⟨hfits, hrest⟩
    exact ⟨_, write_eq_ok.mpr ⟨hfits, rfl⟩, hrest⟩

/-! ## Numbers and words -/

/-- The number that the bytes of a range spell. -/
def number (m : Memory) (start length : Nat) : Nat := Word.ofLittleEndian (m.slice start length)

/-- A number that was put into a memory is found where it was put, if it has no more digits than were put there. -/
theorem number_patch_self {m : Memory} {start length n : Nat} (h : start + length ≤ m.size)
    (hn : n < Nat.pow 256 length) : (m.patch start (Word.littleEndian length n)).number start length = n := by
  have hfits : start + (Word.littleEndian length n).length ≤ m.size := by simpa using h
  have hslice := slice_patch_self hfits
  rw [Word.length_littleEndian] at hslice
  rw [number, hslice, Word.ofLittleEndian_littleEndian, Nat.mod_eq_of_lt hn]

/-- A number beside what was put into a memory is as it was. -/
theorem number_patch_disjoint {m : Memory} {start : Nat} {source : List UInt8} {i length : Nat}
    (h : i + length ≤ start ∨ start + source.length ≤ i) :
    (m.patch start source).number i length = m.number i length :=
  congrArg Word.ofLittleEndian (slice_patch_disjoint h)

/-- What is made of the bytes of a range is read if the range lies inside the memory. -/
theorem map_read_eq_ok {α : Type} {make : List UInt8 → α} {m : Memory} {address : UInt32} {length : Nat} {a : α} :
    (m.read address length).map make = .ok a ↔
      address.toNat + length ≤ m.size ∧ make (m.slice address.toNat length) = a := by
  simp only [read, covers, decide_eq_true_eq]
  split
  · simp [Except.map, *]
  · simp only [Except.map, reduceCtorEq, false_iff]
    omega

/-- The word of four bytes at an index. -/
def word32 (m : Memory) (i : Nat) : UInt32 := UInt32.ofNat (Word.ofLittleEndian (m.slice i 4))

/-- The word of eight bytes at an index. -/
def word64 (m : Memory) (i : Nat) : UInt64 := UInt64.ofNat (Word.ofLittleEndian (m.slice i 8))

theorem readWord32_eq_ok {m : Memory} {address v : UInt32} :
    m.readWord32 address = .ok v ↔ address.toNat + 4 ≤ m.size ∧ m.word32 address.toNat = v :=
  map_read_eq_ok

theorem readWord64_eq_ok {m : Memory} {address : UInt32} {v : UInt64} :
    m.readWord64 address = .ok v ↔ address.toNat + 8 ≤ m.size ∧ m.word64 address.toNat = v :=
  map_read_eq_ok

theorem word32_patch_self {m : Memory} {i : Nat} {v : UInt32} (h : i + 4 ≤ m.size) :
    (m.patch i (Word.littleEndian 4 v.toNat)).word32 i = v :=
  (congrArg UInt32.ofNat (number_patch_self h v.toNat_lt)).trans (UInt32.ofNat_toNat)

theorem word64_patch_self {m : Memory} {i : Nat} {v : UInt64} (h : i + 8 ≤ m.size) :
    (m.patch i (Word.littleEndian 8 v.toNat)).word64 i = v :=
  (congrArg UInt64.ofNat (number_patch_self h v.toNat_lt)).trans (UInt64.ofNat_toNat)

theorem word32_patch_disjoint {m : Memory} {start : Nat} {source : List UInt8} {i : Nat}
    (h : i + 4 ≤ start ∨ start + source.length ≤ i) :
    (m.patch start source).word32 i = m.word32 i :=
  congrArg UInt32.ofNat (number_patch_disjoint h)

theorem word64_patch_disjoint {m : Memory} {start : Nat} {source : List UInt8} {i : Nat}
    (h : i + 8 ≤ start ∨ start + source.length ≤ i) :
    (m.patch start source).word64 i = m.word64 i :=
  congrArg UInt64.ofNat (number_patch_disjoint h)

/-! ## A small memory -/

theorem tiny_le : 64 ≤ 4294967296 := by decide

/-- A memory of 64 zero bytes, enough for a guest with few texts. -/
def tiny : Memory := zeroed 64 tiny_le

end DecoderHost.Memory

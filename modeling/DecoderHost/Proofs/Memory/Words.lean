import DecoderHost.Proofs.Memory.Patch
import Mathlib.Data.Nat.Digits.Lemmas

/-!
# Words of two widths

A word of eight bytes is made up of two words of four, the lower half in front, and of its eight base-256 digits, the
lowest in front. This is so for its spelling, and hence for all accesses to it: `writeWord64_holds` says that what
was written in one width is found in the others, that the halves may be written on their own and in either order, and
that a word which is written back changes nothing.
-/

namespace DecoderHost

/-! ## Spellings -/

namespace Word

/-- Bytes are the spelling of the number that they spell. -/
theorem littleEndian_ofLittleEndian (bytes : List UInt8) :
    littleEndian bytes.length (ofLittleEndian bytes) = bytes := by
  induction bytes with
  | nil => rfl
  | cons b rest ih =>
    have hlt : b.toNat < 256 := b.toNat_lt
    have hfirst : UInt8.ofNat (b.toNat + 256 * ofLittleEndian rest) = b := by
      apply UInt8.toNat_inj.mp
      rw [UInt8.toNat_ofNat']
      omega
    have hrest : (b.toNat + 256 * ofLittleEndian rest) / 256 = ofLittleEndian rest := by omega
    simp only [List.length_cons, ofLittleEndian, littleEndian, hfirst, hrest, ih]

theorem ofLittleEndian_lt (bytes : List UInt8) : ofLittleEndian bytes < 256 ^ bytes.length := by
  induction bytes with
  | nil => decide
  | cons b rest ih =>
    have hlt : b.toNat < 256 := b.toNat_lt
    simp only [ofLittleEndian, List.length_cons, pow_succ]
    omega

/-- The bytes of a spelling are the digits of the number. -/
theorem getElem?_littleEndian {n i : Nat} (h : i < n) (v : Nat) :
    (littleEndian n v)[i]? = some (UInt8.ofNat ((Nat.digits 256 v).getD i 0)) := by
  rw [Nat.getD_digits v i (by decide)]
  induction n generalizing i v with
  | zero => omega
  | succ n ih =>
    cases i with
    | zero => rw [littleEndian, List.getElem?_cons_zero, pow_zero, Nat.div_one, UInt8.ofNat_mod_size]
    | succ i =>
      rw [littleEndian, List.getElem?_cons_succ, ih (by omega), Nat.div_div_eq_div_mul, pow_succ']

/-- The lower digits are spelled first, and then the higher ones. -/
theorem littleEndian_add (n k v : Nat) :
    littleEndian (n + k) v = littleEndian n (v % 256 ^ n) ++ littleEndian k (v / 256 ^ n) := by
  -- Each step takes the lowest digit off the lower part and leaves the higher part alone.
  induction n generalizing v with
  | zero => simp [littleEndian]
  | succ n ih =>
    have hfirst : UInt8.ofNat (v % (256 * 256 ^ n)) = UInt8.ofNat v := by
      rw [← UInt8.ofNat_mod_size, Nat.mod_mul_right_mod, UInt8.ofNat_mod_size]
    rw [Nat.add_right_comm, littleEndian, ih, littleEndian, pow_succ', hfirst, Nat.mod_mul_right_div_self,
      Nat.div_div_eq_div_mul, List.cons_append]

/-- The lower half of a word of eight bytes. -/
def low (v : UInt64) : UInt32 := UInt32.ofNat (v.toNat % 4294967296)

/-- The higher half of a word of eight bytes. -/
def high (v : UInt64) : UInt32 := UInt32.ofNat (v.toNat / 4294967296)

theorem toNat_low (v : UInt64) : (low v).toNat = v.toNat % 4294967296 := by
  rw [low, UInt32.toNat_ofNat']
  exact Nat.mod_mod ..

theorem toNat_high (v : UInt64) : (high v).toNat = v.toNat / 4294967296 := by
  have hlt : v.toNat < 18446744073709551616 := v.toNat_lt
  rw [high, UInt32.toNat_ofNat']
  exact Nat.mod_eq_of_lt (show v.toNat / 4294967296 < 4294967296 by omega)

/-- A word of eight bytes is spelled by its halves. -/
theorem littleEndian_halves (v : UInt64) :
    littleEndian 8 v.toNat = littleEndian 4 (low v).toNat ++ littleEndian 4 (high v).toNat := by
  rw [toNat_low, toNat_high]
  exact littleEndian_add 4 4 v.toNat

end Word

/-! ## Accesses -/

namespace Memory

variable {m : Memory} {a : UInt32}

/-- The addresses of a word of eight bytes do not wrap around. -/
theorem toNat_add_of_lt (h : a.toNat + 8 ≤ m.size) {i : Nat} (hi : i < 8) :
    (a + UInt32.ofNat i).toNat = a.toNat + i := by
  have hsize : m.size ≤ 4294967296 := m.size_le
  exact toNat_add_ofNat (by omega)

/-- A slice is the spelling of the number in it. -/
theorem littleEndian_slice (m : Memory) (i n : Nat) :
    Word.littleEndian n (Word.ofLittleEndian (m.slice i n)) = m.slice i n := by
  have hspelled := Word.littleEndian_ofLittleEndian (m.slice i n)
  rwa [length_slice] at hspelled

/-- The number in a range has no more digits than the range has bytes. -/
theorem number_lt (m : Memory) (i n : Nat) : m.number i n < 256 ^ n := by
  have hlt := Word.ofLittleEndian_lt (m.slice i n)
  rwa [length_slice] at hlt

theorem littleEndian_word32 (m : Memory) (i : Nat) : Word.littleEndian 4 (m.word32 i).toNat = m.slice i 4 := by
  have hword : (m.word32 i).toNat = m.number i 4 := UInt32.toNat_ofNat_of_lt' (m.number_lt i 4)
  rw [hword, number, littleEndian_slice]

theorem littleEndian_word64 (m : Memory) (i : Nat) : Word.littleEndian 8 (m.word64 i).toNat = m.slice i 8 := by
  have hword : (m.word64 i).toNat = m.number i 8 := UInt64.toNat_ofNat_of_lt' (m.number_lt i 8)
  rw [hword, number, littleEndian_slice]

/-- What is written back to where it was read changes nothing. -/
theorem write_slice {length : Nat} (h : a.toNat + length ≤ m.size) :
    m.write a (m.slice a.toNat length) = .ok m := by
  rw [write_eq_ok, length_slice]
  exact ⟨h, patch_slice ..⟩

theorem writeWord32_word32 (h : a.toNat + 4 ≤ m.size) : m.writeWord32 a (m.word32 a.toNat) = .ok m := by
  rw [writeWord32, littleEndian_word32, write_slice h]

theorem writeWord64_word64 (h : a.toNat + 8 ≤ m.size) : m.writeWord64 a (m.word64 a.toNat) = .ok m := by
  rw [writeWord64, littleEndian_word64, write_slice h]

/-- To put a word of eight bytes into a memory is to put its halves there. -/
theorem patch_word64 (m : Memory) (i : Nat) (v : UInt64) :
    m.patch i (Word.littleEndian 8 v.toNat) =
      (m.patch i (Word.littleEndian 4 (Word.low v).toNat)).patch (i + 4)
        (Word.littleEndian 4 (Word.high v).toNat) := by
  rw [Word.littleEndian_halves, patch_append, Word.length_littleEndian]

/-- **What a word of eight bytes is in a memory.** It is found as a whole, as its halves, and as its digits. -/
structure HoldsWord (m : Memory) (a : UInt32) (v : UInt64) : Prop where
  whole : m.readWord64 a = .ok v
  low : ∃ w, m.readWord32 a = .ok w ∧ w.toNat = v.toNat % 4294967296
  high : ∃ w, m.readWord32 (a + 4) = .ok w ∧ w.toNat = v.toNat / 4294967296
  digits : ∀ i < 8, ∃ b, m.readByte (a + UInt32.ofNat i) = .ok b ∧ b.toNat = (Nat.digits 256 v.toNat).getD i 0

theorem HoldsWord.of_patch (h : a.toNat + 8 ≤ m.size) (v : UInt64) :
    (m.patch a.toNat (Word.littleEndian 8 v.toNat)).HoldsWord a v where
  whole := by
    rw [readWord64_eq_ok, size_patch]
    exact ⟨h, word64_patch_self h⟩
  low := by
    refine ⟨Word.low v, ?_, Word.toNat_low v⟩
    rw [readWord32_eq_ok, size_patch, patch_word64, word32_patch_disjoint (.inl (by omega)),
      word32_patch_self (by omega)]
    exact ⟨by omega, rfl⟩
  high := by
    have haddress : (a + 4).toNat = a.toNat + 4 := toNat_add_of_lt h (show 4 < 8 by decide)
    refine ⟨Word.high v, ?_, Word.toNat_high v⟩
    rw [readWord32_eq_ok, size_patch, haddress, patch_word64, word32_patch_self (by rw [size_patch]; omega)]
    exact ⟨by omega, rfl⟩
  digits i hi := by
    have haddress : (a + UInt32.ofNat i).toNat = a.toNat + i := toNat_add_of_lt h hi
    have hdigit : (Nat.digits 256 v.toNat).getD i 0 < 256 := by
      rw [Nat.getD_digits _ _ (by decide)]
      exact Nat.mod_lt _ (by decide)
    refine ⟨UInt8.ofNat ((Nat.digits 256 v.toNat).getD i 0), ?_, ?_⟩
    · rw [readByte_eq_ok, size_patch, haddress, byteAt_patch, Word.length_littleEndian, if_pos (by omega),
        Nat.add_sub_cancel_left, Word.getElem?_littleEndian hi]
      exact ⟨by omega, rfl⟩
    · rw [UInt8.toNat_ofNat']
      exact Nat.mod_eq_of_lt hdigit

/-- **A word of eight bytes.** Where it fits, its eight addresses do not wrap around, it is written, and the memory then
holds it in all widths. The memory is the same if the halves are written on their own, in either order. What is read
in either width may be written back, and changes nothing. -/
theorem writeWord64_holds (m : Memory) (a : UInt32) (v : UInt64) (h : a.toNat + 8 ≤ m.size) :
    (∀ i < 8, (a + UInt32.ofNat i).toNat = a.toNat + i) ∧
    (∃ m', m.writeWord64 a v = .ok m' ∧ m'.HoldsWord a v ∧
      editAll [fun m => m.writeWord32 a (Word.low v), fun m => m.writeWord32 (a + 4) (Word.high v)] m = (.ok (), m') ∧
      editAll [fun m => m.writeWord32 (a + 4) (Word.high v), fun m => m.writeWord32 a (Word.low v)] m = (.ok (), m')) ∧
    (∃ w, m.readWord64 a = .ok w ∧ m.writeWord64 a w = .ok m) ∧
    ∃ w, m.readWord32 a = .ok w ∧ m.writeWord32 a w = .ok m := by
  have haddress : (a + 4).toNat = a.toNat + 4 := toNat_add_of_lt h (show 4 < 8 by decide)
  refine ⟨fun i hi => toNat_add_of_lt h hi, ⟨_, ?_, .of_patch h v, ?_, ?_⟩,
    ⟨_, readWord64_eq_ok.mpr ⟨h, rfl⟩, writeWord64_word64 h⟩,
    ⟨_, readWord32_eq_ok.mpr ⟨by omega, rfl⟩, writeWord32_word32 (by omega)⟩⟩
  · rw [writeWord64, write_eq_ok, Word.length_littleEndian]
    exact ⟨h, rfl⟩
  · simp only [writeWord32, editAll_write_eq_ok, editAll_nil_eq_ok, size_patch, haddress, Word.length_littleEndian]
    exact ⟨by omega, by omega, (patch_word64 ..).symm⟩
  · simp only [writeWord32, editAll_write_eq_ok, editAll_nil_eq_ok, size_patch, haddress, Word.length_littleEndian]
    refine ⟨by omega, by omega, ?_⟩
    rw [patch_word64]
    apply patch_comm
    exact .of_le (.inr (by rw [Word.length_littleEndian]))

/-- A word that ends where the memory ends. -/
theorem writeWord64_holds_at_end :
    ∃ m', tiny.writeWord64 56 0x8877665544332211 = .ok m' ∧ m'.readWord32 60 = .ok 0x88776655 ∧
      m'.readByte 63 = .ok 0x88 ∧
      editAll [fun m => m.writeWord32 60 0x88776655, fun m => m.writeWord32 56 0x44332211] tiny = (.ok (), m') := by
  obtain ⟨-, ⟨m', hwrite, hholds, -, horder⟩, -, -⟩ := writeWord64_holds tiny 56 0x8877665544332211 (by decide)
  obtain ⟨w, hhigh, hw⟩ := hholds.high
  obtain ⟨b, hlast, hb⟩ := hholds.digits 7 (by decide)
  obtain rfl : w = 0x88776655 := UInt32.toNat_inj.mp hw
  rw [Nat.getD_digits _ _ (by decide)] at hb
  obtain rfl : b = 0x88 := UInt8.toNat_inj.mp hb
  exact ⟨m', hwrite, hhigh, hlast, horder⟩

end Memory

end DecoderHost

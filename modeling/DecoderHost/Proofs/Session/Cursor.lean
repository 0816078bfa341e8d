import DecoderHost.Proofs.Memory.Patch
import DecoderHost.Session.Decode

/-!
# The cursor block

A decode is seeded by four writes: the code goes into the input block, and the slots of the cursor are filled one
after another. The slots are the parts of one block of sixteen bytes, so that all comes to two patches, of the code and of
the cursor. The main statement is `seed_exact`: seeding writes these two blocks and nothing else, wherever they lie
apart from each other, and code that does not fit leaves the memory as it is.
-/

namespace DecoderHost.Session

variable {m m' : Memory} {input cursor : UInt32} {code : List UInt8}

/-! ## Slots -/

/-- The slots of a cursor block that lies in the address space. -/
theorem slots_toNat (h : cursor.toNat + 8 < 4294967296) :
    (cursor + 4).toNat = cursor.toNat + 4 ∧ (cursor + 8).toNat = cursor.toNat + 8 :=
  ⟨Memory.toNat_add_ofNat (show cursor.toNat + 4 < 4294967296 by omega), Memory.toNat_add_ofNat h⟩

/-- The slots of a cursor block that lies inside a memory have addresses. -/
theorem slots_lt (h : cursor.toNat + cursorSize ≤ m.size) : cursor.toNat + 8 < 4294967296 := by
  have hsize : m.size ≤ 4294967296 := m.size_le
  unfold cursorSize at h
  omega

/-- The bytes of a cursor at the beginning of an input, with all of it left and the offset zero. -/
def cursorBytes (input length : UInt32) : List UInt8 :=
  Word.littleEndian 4 input.toNat ++ Word.littleEndian 4 length.toNat ++ Word.littleEndian 8 (0 : UInt64).toNat

@[simp] theorem length_cursorBytes (input length : UInt32) : (cursorBytes input length).length = cursorSize := by
  simp only [cursorBytes, List.length_append, Word.length_littleEndian]
  rfl

/-- The slots hold what the bytes of the cursor say. -/
theorem slots_of_patch (hfits : cursor.toNat + cursorSize ≤ m.size) {length : UInt32}
    (h : m.patch cursor.toNat (cursorBytes input length) = m') :
    m'.readWord32 cursor = .ok input ∧ m'.readWord32 (cursor + 4) = .ok length ∧ m'.readWord64 (cursor + 8) = .ok 0 := by
  obtain ⟨hsizeSlot, hoffsetSlot⟩ := slots_toNat (slots_lt hfits)
  unfold cursorSize at hfits
  simp only [cursorBytes, Memory.patch_append, List.length_append, Word.length_littleEndian] at h
  subst h
  rw [Memory.readWord32_eq_ok, Memory.readWord32_eq_ok, Memory.readWord64_eq_ok, hsizeSlot, hoffsetSlot]
  simp only [Memory.size_patch]
  refine ⟨⟨by omega, ?_⟩, ⟨by omega, ?_⟩, by omega, ?_⟩
  · rw [Memory.word32_patch_disjoint (.inl (by omega)), Memory.word32_patch_disjoint (.inl (by omega)),
      Memory.word32_patch_self (by omega)]
  · rw [Memory.word32_patch_disjoint (.inl (by omega)), Memory.word32_patch_self (by rw [Memory.size_patch]; omega)]
  · exact Memory.word64_patch_self (by simp only [Memory.size_patch]; omega)

/-! ## Seeding -/

/-- Seeding goes through exactly if both blocks lie inside the memory, and then comes to two patches. -/
theorem seed_eq_ok_iff (hlt : cursor.toNat + 8 < 4294967296) :
    seed m input code ⟨cursor, cursor + 4, cursor + 8⟩ = (.ok (), m') ↔
      input.toNat + code.length ≤ m.size ∧ cursor.toNat + cursorSize ≤ m.size ∧
        (m.patch input.toNat code).patch cursor.toNat (cursorBytes input (UInt32.ofNat code.length)) = m' := by
  obtain ⟨hsizeSlot, hoffsetSlot⟩ := slots_toNat hlt
  simp only [seed, Memory.writeWord32, Memory.writeWord64, Memory.editAll_write_eq_ok, Memory.editAll_nil_eq_ok,
    hsizeSlot, hoffsetSlot, cursorBytes, cursorSize, Memory.patch_append, Memory.size_patch, List.length_append,
    Word.length_littleEndian]
  -- The slots lie one behind the other, so that all of them are inside if the last one is.
  constructor
  · rintro ⟨hcode, -, -, hlast, hpatch⟩
    exact ⟨hcode, by omega, hpatch⟩
  · rintro ⟨hcode, hcursor, hpatch⟩
    exact ⟨hcode, by omega, by omega, by omega, hpatch⟩

/-- A cursor is seeded wherever the blocks lie within the memory. -/
theorem exists_seed (hcursor : cursor.toNat + 16 ≤ m.size) (hinput : input.toNat + code.length ≤ m.size) :
    ∃ m', seed m input code ⟨cursor, cursor + 4, cursor + 8⟩ = (.ok (), m') :=
  ⟨_, (seed_eq_ok_iff (slots_lt hcursor)).mpr ⟨hinput, hcursor, rfl⟩⟩

/-- Code that does not fit is refused before anything is written, whatever the slots are. -/
theorem seed_of_not_fits (h : ¬ (input.toNat + code.length ≤ m.size)) (slots : Cursor) :
    seed m input code slots = (.error ⟨input, code.length, m.size⟩, m) := by
  simp only [seed, Memory.editAll, Memory.write_eq_error h]

/-- The code is there when the cursor has been put apart from it. -/
theorem read_input (hfits : input.toNat + code.length ≤ m.size) {length : UInt32}
    (hapart : Memory.Apart input.toNat code.length cursor.toNat cursorSize)
    (h : (m.patch input.toNat code).patch cursor.toNat (cursorBytes input length) = m') :
    m'.read input code.length = .ok code := by
  subst h
  rw [Memory.read_eq_ok]
  refine ⟨by simpa using hfits, ?_⟩
  rw [Memory.slice_patch_apart (by rwa [length_cursorBytes]), Memory.slice_patch_self hfits]

/-- What the memory holds when the cursor has been seeded; the code only where the cursor does not lie in
the way. -/
theorem seed_eq_ok (hlt : cursor.toNat + 8 < 4294967296)
    (h : seed m input code ⟨cursor, cursor + 4, cursor + 8⟩ = (.ok (), m')) :
    m'.readWord32 cursor = .ok input ∧ m'.readWord32 (cursor + 4) = .ok (UInt32.ofNat code.length) ∧
      m'.readWord64 (cursor + 8) = .ok 0 ∧
      (input.toNat + code.length ≤ cursor.toNat ∨ cursor.toNat + 16 ≤ input.toNat →
        m'.read input code.length = .ok code) := by
  obtain ⟨hinput, hcursor, hpatch⟩ := (seed_eq_ok_iff hlt).mp h
  obtain ⟨hcodeSlot, hsizeSlot, hoffsetSlot⟩ := slots_of_patch (by rwa [Memory.size_patch]) hpatch
  exact ⟨hcodeSlot, hsizeSlot, hoffsetSlot, fun hbeside => read_input hinput (.of_le hbeside) hpatch⟩

/-- **A seeded memory.** Compared with the memory before, the input block holds the code, the slots of the cursor hold
the address of the input, its length, and the offset zero, and no byte outside the two blocks is another. -/
structure Seeds (m : Memory) (input cursor : UInt32) (code : List UInt8) (m' : Memory) : Prop where
  size : m'.size = m.size
  inputBlock : m'.read input code.length = .ok code
  codeSlot : m'.readWord32 cursor = .ok input
  sizeSlot : ∃ left, m'.readWord32 (cursor + 4) = .ok left ∧ left.toNat = code.length
  offsetSlot : m'.readWord64 (cursor + 8) = .ok 0
  others : ∀ i, ¬ Memory.Within input.toNat code.length i → ¬ Memory.Within cursor.toNat cursorSize i →
    m'.get? i = m.get? i

/-- **Seeding is exact.** If both blocks lie inside the memory and apart from each other, the slots of the cursor have
addresses, and seeding goes through and writes the two blocks and nothing else. If the code does not fit, seeding is
refused and the memory is as it was, wherever the cursor lies. -/
theorem seed_exact (m : Memory) (input cursor : UInt32) (code : List UInt8) (hlength : code.length < 4294967296) :
    (input.toNat + code.length ≤ m.size → cursor.toNat + cursorSize ≤ m.size →
      Memory.Apart input.toNat code.length cursor.toNat cursorSize →
      ∃ slots m', Cursor.at? cursor = some slots ∧ seed m input code slots = (.ok (), m') ∧
        Seeds m input cursor code m') ∧
    (m.size < input.toNat + code.length →
      ∀ slots, seed m input code slots = (.error ⟨input, code.length, m.size⟩, m)) := by
  constructor
  · intro hinput hcursor hapart
    have hlt : cursor.toNat + 8 < 4294967296 := slots_lt hcursor
    obtain ⟨m', hseed⟩ := exists_seed hcursor hinput
    obtain ⟨-, -, hpatch⟩ := (seed_eq_ok_iff hlt).mp hseed
    obtain ⟨hcodeSlot, hsizeSlot, hoffsetSlot⟩ := slots_of_patch (by rwa [Memory.size_patch]) hpatch
    refine ⟨_, m', if_pos hlt, hseed, ?_, read_input hinput hapart hpatch, hcodeSlot, ⟨_, hsizeSlot, ?_⟩,
      hoffsetSlot, ?_⟩
    · rw [← hpatch, Memory.size_patch, Memory.size_patch]
    · rw [UInt32.toNat_ofNat']
      exact Nat.mod_eq_of_lt hlength
    · intro i hout hout'
      rw [← hpatch, Memory.get?_patch_of_not_within (by rwa [length_cursorBytes]), Memory.get?_patch_of_not_within hout]
  · intro hpast slots
    exact seed_of_not_fits (Nat.not_le.mpr hpast) slots

/-- Code right in front of a cursor that is the end of a memory, and the same code where one byte of it would lie
past the end. -/
theorem seed_exact_at_end :
    (∃ m', seed Memory.tiny 45 [0x90, 0xC3, 0x01] ⟨48, 52, 56⟩ = (.ok (), m') ∧
      Seeds Memory.tiny 45 48 [0x90, 0xC3, 0x01] m') ∧
    seed Memory.tiny 62 [0x90, 0xC3, 0x01] ⟨48, 52, 56⟩ = (.error ⟨62, 3, 64⟩, Memory.tiny) := by
  constructor
  · obtain ⟨slots, m', hslots, hseed, hseeds⟩ := (seed_exact Memory.tiny 45 48 [0x90, 0xC3, 0x01] (by decide)).1
      (by decide) (by decide) (.of_le (.inl (by decide)))
    have hslots : some (⟨48, 52, 56⟩ : Cursor) = some slots := hslots
    obtain rfl := Option.some.inj hslots
    exact ⟨m', hseed, hseeds⟩
  · exact (seed_exact Memory.tiny 62 48 [0x90, 0xC3, 0x01] (by decide)).2 (by decide) ⟨48, 52, 56⟩

end DecoderHost.Session

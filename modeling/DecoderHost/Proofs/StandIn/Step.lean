import DecoderHost.Proofs.Guest.Code
import DecoderHost.Proofs.StandIn.Reference
import DecoderHost.Proofs.StandIn.Texts

/-!
# One step of the stand-in

The host gives the stand-in a record, a cursor block and a copy of the input; on a fresh heap these lie at
fixed addresses. `Poised` ties the memory to the part of the input that is still unread, and one call of
`cs_disasm_iter` does to a poised memory what the encoding says of that part.
-/

namespace DecoderHost.StandIn

open GuestAction

/-! ## The places of a decode -/

/-- The address of the instruction record on a fresh heap. -/
def recordAt : UInt32 := 4096

/-- The number of bytes in the stand-in's memory. -/
def memorySize : Nat := 65536

/-- The memory while a decode is under way: `offset` bytes have been read, and `rest` is unread. The cursor
block is at 4160 and the input, as long as it is, from 4176 on. -/
structure Poised (m : Memory) (offset : Nat) (rest : List UInt8) : Prop where
  size : m.size = memorySize
  texts : HasTexts m
  fits : 4176 + offset + rest.length ≤ memorySize
  next : m.word32 4160 = UInt32.ofNat (4176 + offset)
  left : m.word32 4164 = UInt32.ofNat rest.length
  reached : m.word64 4168 = UInt64.ofNat offset
  unread : m.slice (4176 + offset) rest.length = rest

/-! ## Readings -/

/-- The reading that goes with a handle. -/
def dialectOf (handle : UInt32) : Dialect := if handle = 259 then .x86 else .arm

/-- Does the stand-in read what the encoding says? -/
def Reading.Agrees : Reading → Front → Prop
  | .undecodable, .nothing => True
  | .trap, .trap => True
  | .instruction length p q, .instruction n mnemonic operands =>
    length.toNat = n ∧ p.Spells mnemonic ∧ q.Spells operands
  | _, _ => False

theorem readX86_agrees {byte : UInt8} {rest : List UInt8} (h : (byte :: rest).length < 4294967296) :
    (readX86 8 (UInt32.ofNat (byte :: rest).length) byte).Agrees (frontX86 (byte :: rest)) := by
  have hshort : UInt32.ofNat (byte :: rest).length < 2 ↔ rest = [] := by
    rw [UInt32.lt_iff_toNat_lt, UInt32.toNat_ofNat_of_lt' h, List.length_cons, ← List.length_eq_zero_iff]
    show rest.length + 1 < 2 ↔ _
    omega
  unfold readX86 frontX86
  split
  · exact ⟨rfl, by decide +kernel, by decide +kernel⟩
  · exact ⟨rfl, by decide +kernel, by decide +kernel⟩
  · exact ⟨rfl, by decide +kernel, by decide +kernel⟩
  · simp only [hshort]
    by_cases hrest : rest = []
    · simp [hrest, Reading.Agrees]
    · simp only [hrest, if_false]
      exact ⟨rfl, by decide +kernel, by decide +kernel⟩
  · exact trivial
  · simp_all [Reading.Agrees]

theorem readArm_agrees (byte : UInt8) (rest : List UInt8) :
    (readArm byte).Agrees (frontArm (byte :: rest)) := by
  unfold readArm frontArm
  split
  · exact ⟨rfl, by decide +kernel, by decide +kernel⟩
  · exact ⟨rfl, by decide +kernel, by decide +kernel⟩
  · exact ⟨rfl, by decide +kernel, by decide +kernel⟩
  · simp_all [Reading.Agrees]

theorem reading_agrees (handle : UInt32) {byte : UInt8} {rest : List UInt8}
    (h : (byte :: rest).length < 4294967296) :
    (if handle = 259 then readX86 8 (UInt32.ofNat (byte :: rest).length) byte else readArm byte).Agrees
      (front (dialectOf handle) (byte :: rest)) := by
  unfold dialectOf
  split
  · exact readX86_agrees h
  · exact readArm_agrees byte rest

theorem phrases_of_front {dialect : Dialect} {code : List UInt8} {length : Nat} {mnemonic operands : String}
    (h : front dialect code = .instruction length mnemonic operands) :
    mnemonic ∈ phrases ∧ operands ∈ phrases := by
  cases code with
  | nil => cases dialect <;> simp [front, frontX86, frontArm] at h
  | cons byte rest =>
    cases dialect <;> simp only [front, frontX86, frontArm] at h <;> repeat' split at h
    all_goals
      cases h <;> decide +kernel

/-! ## The memory after a step -/

/-- The memory after an instruction has been decoded: its texts in the record, the cursor at `offset` with
`left` bytes to come. -/
def advanced (m : Memory) (mnemonic operands : String) (offset left : Nat) : Memory :=
  ((((m.patch 4096 (stored mnemonic)).patch 4128 (stored operands)).patch 4160
    (Word.littleEndian 4 (UInt32.ofNat (4176 + offset)).toNat)).patch 4164
    (Word.littleEndian 4 (UInt32.ofNat left).toNat)).patch 4168
    (Word.littleEndian 8 (UInt64.ofNat offset).toNat)

@[simp] theorem size_advanced (m : Memory) (mnemonic operands : String) (offset left : Nat) :
    (advanced m mnemonic operands offset left).size = m.size := by
  simp [advanced]

/-- What lies beyond the cursor block is as it was. -/
theorem slice_advanced (m : Memory) {mnemonic operands : String} (offset left : Nat) {a : Nat}
    (hm : (stored mnemonic).length ≤ 32) (ho : (stored operands).length ≤ 32) (ha : 4176 ≤ a)
    (length : Nat) :
    (advanced m mnemonic operands offset left).slice a length = m.slice a length := by
  unfold advanced
  rw [Memory.slice_patch_disjoint (.inr (by rw [Word.length_littleEndian]; omega)),
    Memory.slice_patch_disjoint (.inr (by rw [Word.length_littleEndian]; omega)),
    Memory.slice_patch_disjoint (.inr (by rw [Word.length_littleEndian]; omega)),
    Memory.slice_patch_disjoint (.inr (by omega)), Memory.slice_patch_disjoint (.inr (by omega))]

theorem HasTexts.advanced {m : Memory} (h : HasTexts m) (mnemonic operands : String) (offset left : Nat) :
    HasTexts (advanced m mnemonic operands offset left) :=
  ((((h.patch _ (by decide)).patch _ (by decide)).patch _ (by decide)).patch _ (by decide)).patch _
    (by decide)

/-- The texts of a decoded instruction are in the record. -/
theorem hasText_advanced {m : Memory} (hsize : m.size = memorySize) {mnemonic operands : String}
    (hm : mnemonic ∈ phrases) (ho : operands ∈ phrases) (offset left : Nat) :
    (advanced m mnemonic operands offset left).HasText 4096 mnemonic.toUTF8.toList ∧
      (advanced m mnemonic operands offset left).HasText 4128 operands.toUTF8.toList := by
  have hmLength := length_stored_le mnemonic hm
  have hoLength := length_stored_le operands ho
  unfold memorySize at hsize
  constructor
  · apply hasText_of_stored hm ?_ (by rw [size_advanced]; omega)
    unfold advanced
    rw [Memory.slice_patch_disjoint (.inl (by omega)), Memory.slice_patch_disjoint (.inl (by omega)),
      Memory.slice_patch_disjoint (.inl (by omega)), Memory.slice_patch_disjoint (.inl (by omega)),
      Memory.slice_patch_self (by omega)]
  · apply hasText_of_stored ho ?_ (by rw [size_advanced]; omega)
    unfold advanced
    rw [Memory.slice_patch_disjoint (.inl (by omega)), Memory.slice_patch_disjoint (.inl (by omega)),
      Memory.slice_patch_disjoint (.inl (by omega)), Memory.slice_patch_self (by rw [Memory.size_patch]; omega)]

theorem Poised.advanced {m : Memory} {offset length : Nat} {code : List UInt8} (h : Poised m offset code)
    (hlength : length ≤ code.length) {mnemonic operands : String}
    (hm : (stored mnemonic).length ≤ 32) (ho : (stored operands).length ≤ 32) :
    Poised (advanced m mnemonic operands (offset + length) (code.length - length)) (offset + length)
      (code.drop length) where
  size := by rw [size_advanced, h.size]
  texts := h.texts.advanced mnemonic operands _ _
  fits := by
    have := h.fits
    rw [List.length_drop]
    omega
  next := by
    have hsize := h.size
    unfold StandIn.advanced
    rw [Memory.word32_patch_disjoint (.inl (by omega)), Memory.word32_patch_disjoint (.inl (by omega)),
      Memory.word32_patch_self]
    simp [hsize, memorySize]
  left := by
    have hsize := h.size
    unfold StandIn.advanced
    rw [Memory.word32_patch_disjoint (.inl (by omega)), Memory.word32_patch_self, List.length_drop]
    simp [hsize, memorySize]
  reached := by
    have hsize := h.size
    unfold StandIn.advanced
    rw [Memory.word64_patch_self]
    simp [hsize, memorySize]
  unread := by
    rw [List.length_drop, slice_advanced m _ _ hm ho (by omega), ← Nat.add_assoc, ← Memory.drop_slice,
      h.unread]

/-! ## The step -/

theorem run_copy {target source : UInt32} {size : Nat} {s : Store Globals}
    (hsource : source.toNat + size ≤ s.memory.size) (htarget : target.toNat + size ≤ s.memory.size) :
    run (copy target source size) s = (.ok (), { s with
      memory := s.memory.patch target.toNat (s.memory.slice source.toNat size) }) := by
  unfold copy
  rw [run_bind_of_ok (a := s.memory.slice source.toNat size) (t := s), run_store (by simpa using htarget)]
  · rfl
  · simp only [run, hsource, if_true]

/-- The record is filled with the texts that the phrases spell. -/
theorem run_emit {s : Store Globals} (hsize : s.memory.size = memorySize) (htexts : HasTexts s.memory)
    {p q : Phrase} {mnemonic operands : String} (hp : p.Spells mnemonic) (hq : q.Spells operands) :
    run (emit recordAt p q) s = (.ok (), { s with
      memory := (s.memory.patch 4096 (stored mnemonic)).patch 4128 (stored operands) }) := by
  have hpFits := hp.fits
  have hqFits := hq.fits
  have hpSize := hp.length_le
  have hqSize := hq.length_le
  simp only [heapBase, memorySize] at *
  have hmnemonic := htexts.slice_phrase hp
  have hoperands := (htexts.patch (stored mnemonic) (Nat.le_refl heapBase)).slice_phrase hq
  unfold emit
  rw [run_bind_of_ok (run_copy (by omega) (show 4096 + p.size ≤ _ by omega)), hmnemonic,
    run_copy (by rw [Memory.size_patch]; omega)
      (by rw [Memory.size_patch]; exact show 4128 + q.size ≤ _ by omega)]
  exact congrArg (fun bytes => (Except.ok (), { s with
    memory := (s.memory.patch 4096 (stored mnemonic)).patch 4128 bytes })) hoperands

/-- What the stand-in does once it has read a byte. -/
def act (code size : UInt32) : Reading → Code UInt32
  | .undecodable => return 0
  | .trap => trap .unreachable
  | .instruction length mnemonic operands => do
    emit recordAt mnemonic operands
    store32 4160 (code + length)
    store32 4164 (size - length)
    store64 4168 ((← load64 4168) + length.toUInt64)
    return 1

/-- What an instruction is made of, and where the cursor goes. -/
theorem run_instruction {s : Store Globals} {offset : Nat} {code : List UInt8}
    (h : Poised s.memory offset code) {length : UInt32} (hlength : length.toNat ≤ code.length)
    {p q : Phrase} {mnemonic operands : String} (hp : p.Spells mnemonic) (hq : q.Spells operands) :
    run (act (UInt32.ofNat (4176 + offset)) (UInt32.ofNat code.length) (.instruction length p q)) s =
      (.ok 1, { s with
        memory := advanced s.memory mnemonic operands (offset + length.toNat)
          (code.length - length.toNat) }) := by
  have hsize := h.size
  have hnext : UInt32.ofNat (4176 + offset) + length = UInt32.ofNat (4176 + (offset + length.toNat)) := by
    rw [← Nat.add_assoc, UInt32.ofNat_add (4176 + offset), UInt32.ofNat_toNat]
  have hleft : UInt32.ofNat code.length - length = UInt32.ofNat (code.length - length.toNat) := by
    rw [UInt32.ofNat_sub hlength, UInt32.ofNat_toNat]
  have hreached : UInt64.ofNat offset + length.toUInt64 = UInt64.ofNat (offset + length.toNat) := by
    rw [UInt64.ofNat_add, UInt64.ofNat_uInt32ToNat]
  unfold act
  rw [run_bind_of_ok (run_emit hsize h.texts hp hq),
    run_bind_of_ok (run_store32 (by simp [hsize, memorySize])),
    run_bind_of_ok (run_store32 (by simp [hsize, memorySize])),
    run_bind_of_ok (run_load64 (by simp [hsize, memorySize])),
    run_bind_of_ok (run_store64 (by simp [hsize, memorySize])), run_pure]
  -- The offset is read back after the record and the other two slots have been written.
  have hword : ((((s.memory.patch 4096 (stored mnemonic)).patch 4128 (stored operands)).patch 4160
      (Word.littleEndian 4 (UInt32.ofNat (4176 + offset) + length).toNat)).patch 4164
      (Word.littleEndian 4 (UInt32.ofNat code.length - length).toNat)).word64 4168 =
      UInt64.ofNat offset := by
    rw [Memory.word64_patch_disjoint (.inr (by simp)), Memory.word64_patch_disjoint (.inr (by simp)),
      Memory.word64_patch_disjoint (.inr (by have := hq.length_le; rw [hq.2] at this; omega)),
      Memory.word64_patch_disjoint (.inr (by have := hp.length_le; rw [hp.2] at this; omega)), h.reached]
  unfold advanced
  rw [← hnext, ← hleft, ← hreached, ← hword]
  rfl

theorem run_csDisasmIter_nil (handle : UInt32) {s : Store Globals} {offset : Nat}
    (h : Poised s.memory offset []) :
    run (csDisasmIter handle 4160 4164 4168 recordAt) s = (.ok 0, s) := by
  have hsize := h.size
  unfold csDisasmIter
  rw [run_bind_of_ok (run_load32 (by simp [hsize, memorySize]))]
  have hleft : s.memory.word32 ((4164 : UInt32).toNat + 0) = 0 := h.left
  rw [if_pos hleft, run_pure]

theorem run_csDisasmIter_cons (handle : UInt32) {s : Store Globals} {offset : Nat} {byte : UInt8}
    {rest : List UInt8} (h : Poised s.memory offset (byte :: rest)) (hflavour : s.globals.syntaxValue = 8) :
    run (csDisasmIter handle 4160 4164 4168 recordAt) s =
      run (act (UInt32.ofNat (4176 + offset)) (UInt32.ofNat (byte :: rest).length)
        (if handle = 259 then readX86 8 (UInt32.ofNat (byte :: rest).length) byte else readArm byte)) s := by
  have hsize := h.size
  have hfits := h.fits
  simp only [List.length_cons, memorySize] at hsize hfits
  have hleft : s.memory.word32 ((4164 : UInt32).toNat + 0) = UInt32.ofNat (byte :: rest).length := h.left
  -- The word in the slot is not zero, since the input fits the memory and cannot have wrapped around.
  have hpositive : UInt32.ofNat (byte :: rest).length ≠ 0 := by
    intro hzero
    have hmod : (rest.length + 1) % 4294967296 = 0 := congrArg UInt32.toNat hzero
    omega
  have hnext : s.memory.word32 ((4160 : UInt32).toNat + 0) = UInt32.ofNat (4176 + offset) := h.next
  have haddress : (UInt32.ofNat (4176 + offset)).toNat = 4176 + offset :=
    UInt32.toNat_ofNat_of_lt' (show _ < 4294967296 by omega)
  have hbyte : s.memory.byteAt ((UInt32.ofNat (4176 + offset)).toNat + 0) = byte := by
    have hunread := h.unread
    rw [List.length_cons, Memory.slice_succ, List.cons.injEq] at hunread
    rw [haddress]
    exact hunread.1
  unfold csDisasmIter
  rw [run_bind_of_ok (run_load32 (by simp [hsize])), hleft, if_neg hpositive,
    run_bind_of_ok (run_load32 (by simp [hsize])), hnext,
    run_bind_of_ok (run_load8 (by rw [haddress, hsize]; omega)), hbyte,
    run_bind_of_ok (run_globals s), hflavour]
  rfl

/-- **One call of the stand-in does what the encoding says.** -/
theorem run_csDisasmIter (handle : UInt32) {s : Store Globals} {offset : Nat} {code : List UInt8}
    (h : Poised s.memory offset code) (hflavour : s.globals.syntaxValue = 8) :
    run (csDisasmIter handle 4160 4164 4168 recordAt) s = match front (dialectOf handle) code with
      | .nothing => (.ok 0, s)
      | .trap => (.error .unreachable, s)
      | .instruction length mnemonic operands => (.ok 1, { s with
          memory := advanced s.memory mnemonic operands (offset + length) (code.length - length) }) := by
  cases code with
  | nil =>
    have hfront : front (dialectOf handle) [] = .nothing := by
      cases dialectOf handle <;> rfl
    rw [run_csDisasmIter_nil handle h, hfront]
  | cons byte rest =>
    have hfits := h.fits
    have hlength : (byte :: rest).length < 4294967296 := by
      unfold memorySize at hfits
      omega
    have hagrees := reading_agrees handle hlength
    rw [run_csDisasmIter_cons handle h hflavour]
    generalize (if handle = 259 then readX86 8 (UInt32.ofNat (byte :: rest).length) byte
      else readArm byte) = reading at hagrees
    rcases hfront : front (dialectOf handle) (byte :: rest) with ⟨n, mnemonic, operands⟩ | _ | _ <;>
      rw [hfront] at hagrees <;> cases reading <;> simp only [Reading.Agrees] at hagrees
    · obtain ⟨rfl, hp, hq⟩ := hagrees
      exact run_instruction h (length_front hfront).2 hp hq
    · rfl
    · rfl

end DecoderHost.StandIn

import DecoderHost.Disassembler
import DecoderHost.Proofs.StandIn.Decode

/-!
# Opening the stand-in

The stand-in opens for Arm, for AArch64, and for x86 in a mode that sets the width of a word. An opened one
is idle, with the handle that tells its reading and in the AT&T flavour of syntax.
-/

namespace DecoderHost

namespace StandIn

open GuestAction

/-- The targets for which the stand-in opens. -/
def Accepts (arch : Arch) (mode : Mode) : Prop :=
  arch = .arm ∨ arch = .aarch64 ∨ (arch = .x86 ∧ mode.bits &&& 14 ≠ 0)

instance (arch : Arch) (mode : Mode) : Decidable (Accepts arch mode) :=
  inferInstanceAs (Decidable (_ ∨ _ ∨ _))

/-- The handle of an engine for an architecture. -/
def handleOf (arch : Arch) : UInt32 := UInt32.ofNat arch.number + 256

/-- The reading of the encoding for an architecture. -/
def dialectFor (arch : Arch) : Dialect := if arch = .x86 then .x86 else .arm

theorem dialectOf_handleOf (arch : Arch) : dialectOf (handleOf arch) = dialectFor arch := by
  cases arch <;> decide

/-- The words in which the host names a target. -/
def modeWord (mode : Mode) : UInt32 := UInt32.ofNat mode.bits.toNat

theorem modeWord_and (mode : Mode) : modeWord mode &&& 14 = 0 ↔ mode.bits &&& 14 = 0 := by
  rw [← UInt32.toBitVec_inj]
  simp [modeWord]

/-- The store after the engine has been opened. -/
def opened (s : Store Globals) (slot handle : UInt32) : Store Globals :=
  { s with
    memory := s.memory.patch slot.toNat (Word.littleEndian 4 handle.toNat)
    globals := { s.globals with opened := s.globals.opened + 1 } }

theorem run_csOpen_code_of_accepts {arch : Arch} {mode : Mode} (h : Accepts arch mode) {s : Store Globals}
    {slot : UInt32} (hslot : slot.toNat + 4 ≤ s.memory.size) :
    run (csOpen (UInt32.ofNat arch.number) (modeWord mode) slot) s =
      (.ok 0, opened s slot (handleOf arch)) := by
  have hwidth : ¬ (UInt32.ofNat arch.number = 3 ∧ modeWord mode &&& 14 = 0) := by
    rw [modeWord_and]
    rintro ⟨harch, hmode⟩
    rcases h with rfl | rfl | ⟨-, hwidth⟩
    · exact absurd harch (by decide)
    · exact absurd harch (by decide)
    · exact hwidth hmode
  have hknown : ¬ (UInt32.ofNat arch.number > 1 ∧ UInt32.ofNat arch.number ≠ 3) := by
    rcases h with rfl | rfl | ⟨rfl, -⟩ <;> decide
  unfold csOpen
  rw [if_neg hwidth, if_neg hknown, run_bind_of_ok (run_store32 hslot),
    run_bind_of_ok (run_modifyGlobals ..), run_pure]
  rfl

theorem run_csOpen_code_of_not_accepts {arch : Arch} {mode : Mode} (h : ¬ Accepts arch mode)
    (slot : UInt32) (s : Store Globals) :
    ∃ status, status ≠ 0 ∧
      run (csOpen (UInt32.ofNat arch.number) (modeWord mode) slot) s = (.ok status, s) := by
  unfold csOpen
  by_cases hx86 : arch = .x86
  · subst hx86
    have hmode : mode.bits &&& 14 = 0 :=
      Decidable.byContradiction fun hmode => h (.inr (.inr ⟨rfl, hmode⟩))
    refine ⟨5, by decide, ?_⟩
    rw [if_pos ⟨by decide, (modeWord_and mode).mpr hmode⟩, run_pure]
  · have hunknown : UInt32.ofNat arch.number > 1 ∧ UInt32.ofNat arch.number ≠ 3 := by
      cases arch <;> first | decide | simp [Accepts] at h hx86
    refine ⟨2, by decide, ?_⟩
    rw [if_neg (fun hwidth => hunknown.2 hwidth.1), if_pos hunknown, run_pure]

/-! ## The host's side -/

section

variable (arch : Arch) (mode : Mode) {slot : UInt32} {s : Scene Globals}

theorem run_csOpen {status : UInt32} {t : Store Globals}
    (h : run (csOpen (UInt32.ofNat arch.number) (modeWord mode) slot) s.store = (.ok status, t)) :
    (guest.csOpen arch mode slot).run s = (.ok status, { s with store := t }) := by
  have harch : arch.number < 4294967296 := by
    cases arch <;> decide
  unfold Guest.csOpen
  rw [ofNat_toUInt64 harch, ofNat_toUInt64 mode.bits.isLt]
  exact run_call_pointer [UInt32.ofNat arch.number, modeWord mode, slot] rfl (run_one h)

theorem run_freeSlot (h : slot ≠ 0) (s : Scene Globals) :
    (Session.freeSlot guest slot).run s = (.ok (), { s with store := givenBack s.store }) := by
  unfold Session.freeSlot Guest.free
  have hfree : Host.run (do return (← guest.tryCall "free" [slot.toUInt64]).map fun _ => ()) s =
      (.ok (.ok ()), { s with store := givenBack s.store }) := by
    rw [Host.run_bind_of_ok (run_tryCall_free h s), Host.run_pure]
    rfl
  rw [Host.run_bind_of_ok hfree, Host.run_pure]

end

/-- The store once the flavour of syntax has been set. -/
def flavoured (s : Store Globals) : Store Globals :=
  { s with globals := { s.globals with
      optionCalls := s.globals.optionCalls + 1, optionType := 1, optionValue := 8, syntaxValue := 8 } }

theorem run_setOption (handle : UInt32) (s : Scene Globals) :
    (Session.setOption guest handle .syntaxFlavour .attSyntax).run s =
      (.ok (), { s with store := flavoured s.store }) := by
  have hcode : run (csOption 1 8) s.store = (.ok 0, flavoured s.store) := by
    unfold csOption
    rw [run_bind_of_ok (run_modifyGlobals ..), if_neg (by decide), run_bind_of_ok (run_modifyGlobals ..),
      run_pure]
    rfl
  have hoption : (guest.csOption handle .syntaxFlavour .attSyntax).run s =
      (.ok 0, { s with store := flavoured s.store }) :=
    run_call_pointer [handle, 1, 8] rfl (run_one hcode)
  unfold Session.setOption
  rw [Host.run_bind_of_ok hoption, if_neg (by decide), Host.run_pure]

/-- A stand-in that has not been opened. -/
structure Unopened (s : Store Globals) : Prop where
  size : s.memory.size = memorySize
  texts : HasTexts s.memory
  heap : s.globals.heap = 4096
  live : s.globals.live = 0

/-- **The stand-in opens for what it accepts, and is idle then.** It has no part in the surroundings. -/
theorem Unopened.run_open_of_accepts {arch : Arch} {mode : Mode} (harch : Accepts arch mode)
    {s : Scene Globals} (h : Unopened s.store) :
    ∃ t, Idle t.store ∧ t.store.surroundings = s.store.surroundings ∧ t.events = s.events ∧
      (Session.open guest arch mode).run s = (.ok (.ok (handleOf arch)), t) := by
  -- The scenes after the slot is taken, after the engine is opened, and after the slot is given back.
  let s₁ : Scene Globals := { s with store := taken s.store (UInt32.ofNat 4) }
  let s₂ : Scene Globals := { s₁ with store := opened s₁.store 4096 (handleOf arch) }
  let s₃ : Scene Globals := { s₂ with store := givenBack s₂.store }
  have hslot : (4096 : UInt32).toNat + 4 ≤ s₁.store.memory.size := by
    rw [show s₁.store.memory.size = memorySize from h.size]
    decide
  have hmalloc : (guest.malloc 4).run s = (.ok 4096, s₁) := by
    rw [run_malloc (by decide), h.heap]
  have hopen : (guest.csOpen arch mode 4096).run s₁ = (.ok 0, s₂) :=
    run_csOpen arch mode (run_csOpen_code_of_accepts harch hslot)
  have hread : (Session.readHandle 4096).run s₂ = (.ok (handleOf arch), s₂) := by
    have hword : s₂.store.memory.readWord32 4096 = .ok (handleOf arch) := by
      rw [Memory.readWord32_eq_ok]
      refine ⟨?_, Memory.word32_patch_self hslot⟩
      show _ ≤ (Memory.patch _ _ _).size
      rw [Memory.size_patch]
      exact hslot
    unfold Session.readHandle
    rw [Host.run_bind_of_ok (Host.run_memory s₂), hword, Host.run_pure]
  have hfree : (Session.freeSlot guest 4096).run s₂ = (.ok (), s₃) := run_freeSlot (by decide) s₂
  have hlive : s.store.globals.live + 1 - 1 = 0 := by
    rw [h.live]
    decide
  refine ⟨{ s₃ with store := flavoured s₃.store }, ?_, rfl, rfl, ?_⟩
  · refine ⟨?_, ?_, if_pos hlive, hlive, rfl⟩
    · exact (Memory.size_patch ..).trans h.size
    · exact h.texts.patch _ (by decide)
  · unfold Session.open
    rw [Host.run_bind_of_ok hmalloc, if_neg (by decide), Host.run_bind_of_ok hopen, if_pos rfl,
      Host.run_bind_of_ok hread, Host.run_bind_of_ok hfree, Host.run_bind_of_ok (run_setOption ..),
      Host.run_pure]

/-- What the stand-in does not accept is refused with a status, and it has no part in the surroundings then either. -/
theorem Unopened.run_open_of_not_accepts {arch : Arch} {mode : Mode} (harch : ¬ Accepts arch mode)
    {s : Scene Globals} (h : Unopened s.store) :
    ∃ t status, t.store.surroundings = s.store.surroundings ∧
      (Session.open guest arch mode).run s = (.ok (.error (.rejected arch mode status)), t) := by
  let s₁ : Scene Globals := { s with store := taken s.store (UInt32.ofNat 4) }
  have hmalloc : (guest.malloc 4).run s = (.ok 4096, s₁) := by
    rw [run_malloc (by decide), h.heap]
  obtain ⟨status, hstatus, hcode⟩ := run_csOpen_code_of_not_accepts harch 4096 s₁.store
  unfold Session.open
  rw [Host.run_bind_of_ok hmalloc, if_neg (by decide), Host.run_bind_of_ok (run_csOpen arch mode hcode),
    if_neg hstatus, Host.run_bind_of_ok (run_freeSlot (by decide) s₁), Host.run_pure]
  exact ⟨{ s₁ with store := givenBack s₁.store }, _, rfl, rfl⟩

/-! ## Disassemblers on the stand-in -/

/-- A fresh store of the stand-in. -/
theorem unopened_start (pageLimit : Nat) (surroundings : Surroundings) :
    Unopened { memory := initialMemory, pageLimit, globals := {}, surroundings : Store Globals } :=
  ⟨size_initialMemory, hasTexts_initialMemory, rfl, rfl⟩

end StandIn

end DecoderHost

import DecoderHost.Proofs.Session.Cursor
import DecoderHost.Proofs.Session.GuestText
import DecoderHost.Proofs.StandIn.Calls

/-!
# Decoding with the stand-in

A decode through the stand-in comes to what the encoding says of the input: the instructions of the
reference, in its order and with its offsets, or the trap where it has one. It leaves the stand-in as it
found it but for bytes of the heap that no later decode looks at.
-/

namespace DecoderHost.StandIn

variable {α : Type}

/-! ## The loop -/

/-- The stop that a trap of the decoder comes to. -/
def fault : Stop := .panic (.callFailed (Guest.trapError "cs_disasm_iter" .unreachable))

theorem run_guestText {datum : GuestDatum} {address : UInt32} {text : String} {s : Scene Globals}
    (htext : text ∈ phrases) (h : s.store.memory.HasText address.toNat text.toUTF8.toList) :
    (Session.guestText datum address).run s = (.ok text, s) := by
  rw [Session.run_guestText_of_hasText h, repair_phrase text htext]

/-- What the rounds of a decode come to, by what the reference makes of the unread input. Only the memory
changes, and the texts in it stay. -/
def Decodes (s : Scene Globals) (decoded : Array Instruction)
    (outcome : Except Stop (Array Instruction) × Scene Globals) : Option Disassembly → Prop
  | some d => ∃ m, m.size = memorySize ∧ HasTexts m ∧ m.word32 4164 = UInt32.ofNat d.remaining ∧
      outcome = (.ok (decoded ++ d.instructions.toArray), { s with store.memory := m })
  | none => ∃ m, m.size = memorySize ∧ HasTexts m ∧ outcome = (.error fault, { s with store.memory := m })

/-- One round that decodes an instruction, and the rest of the rounds. -/
theorem run_round {handle : UInt32} {s : Scene Globals} {offset : Nat} {code : List UInt8}
    (h : Poised s.store.memory offset code) (hflavour : s.store.globals.syntaxValue = 8)
    {length : Nat} {mnemonic operands : String}
    (hfront : front (dialectOf handle) code = .instruction length mnemonic operands) (steps : Nat)
    (decoded : Array Instruction) :
    (Session.decodeAll guest handle ⟨4160, 4164, 4168⟩ recordAt (steps + 1) decoded).run s =
      (Session.decodeAll guest handle ⟨4160, 4164, 4168⟩ recordAt steps
        (decoded.push ⟨UInt64.ofNat offset, mnemonic, operands⟩)).run { s with
          store.memory := advanced s.store.memory mnemonic operands (offset + length)
            (code.length - length) } := by
  have hsize := h.size
  obtain ⟨hm, ho⟩ := phrases_of_front hfront
  have hread : s.store.memory.readWord64 4168 = .ok (UInt64.ofNat offset) := by
    rw [Memory.readWord64_eq_ok, hsize]
    exact ⟨by decide, h.reached⟩
  have hattempt := run_attempt handle h hflavour
  simp only [attempted, hfront] at hattempt
  -- The texts are read from the memory that the attempt leaves behind, in which they have just been stored.
  obtain ⟨hmnemonic, hoperands⟩ :=
    hasText_advanced hsize hm ho (offset + length) (code.length - length)
  generalize advanced s.store.memory mnemonic operands (offset + length) (code.length - length) = m
    at hattempt hmnemonic hoperands
  have hmnemonicRead : (Session.guestText .mnemonic recordAt).run { s with store.memory := m } =
      (.ok mnemonic, { s with store.memory := m }) := run_guestText hm hmnemonic
  have hoperandsRead : (Session.guestText .operands (recordAt + 32)).run { s with store.memory := m } =
      (.ok operands, { s with store.memory := m }) := run_guestText ho hoperands
  rw [Session.decodeAll, Host.run_bind_of_ok (Host.inspect_eq_ok.mpr ⟨hread, rfl⟩),
    Host.run_bind_of_ok hattempt, if_pos rfl, Host.run_bind_of_ok (run_csMnemonic ..),
    Host.run_bind_of_ok (run_csOperands ..), Host.run_bind_of_ok hmnemonicRead,
    Host.run_bind_of_ok hoperandsRead]

/-- The attempt that ends the rounds or traps. -/
theorem run_last {handle : UInt32} {s t : Scene Globals} {offset : Nat} {code : List UInt8}
    (h : Poised s.store.memory offset code) {outcome : Except Stop Bool}
    (hattempt : (guest.csDisasmIter handle 4160 4164 4168 recordAt).run s = (outcome, t))
    (hlast : outcome ≠ .ok true) (steps : Nat) (decoded : Array Instruction) :
    (Session.decodeAll guest handle ⟨4160, 4164, 4168⟩ recordAt (steps + 1) decoded).run s =
      (outcome.map fun _ => decoded, t) := by
  have hread : s.store.memory.readWord64 4168 = .ok (UInt64.ofNat offset) := by
    rw [Memory.readWord64_eq_ok, h.size]
    exact ⟨by decide, h.reached⟩
  rw [Session.decodeAll, Host.run_bind_of_ok (Host.inspect_eq_ok.mpr ⟨hread, rfl⟩)]
  rcases outcome with stop | _ | _
  · rw [Host.run_bind_of_error hattempt]
    rfl
  · rw [Host.run_bind_of_ok hattempt]
    rfl
  · exact absurd rfl hlast

/-- **The rounds follow the reference.** There is at least one round for each byte, and one more. -/
theorem run_decodeAll {dialect : Dialect} {handle : UInt32} (hdialect : dialectOf handle = dialect)
    {offset : Nat} {code : List UInt8} {s : Scene Globals} (h : Poised s.store.memory offset code)
    (hflavour : s.store.globals.syntaxValue = 8) {steps : Nat} (hsteps : code.length ≤ steps)
    (decoded : Array Instruction) :
    Decodes s decoded
      ((Session.decodeAll guest handle ⟨4160, 4164, 4168⟩ recordAt (steps + 1) decoded).run s)
      (reference dialect offset code) := by
  -- The induction is along the reference, whose case tells what the next attempt finds.
  fun_induction reference dialect offset code generalizing s steps decoded with
  | case1 offset code hfront =>
    have hattempt := run_attempt handle h hflavour
    simp only [attempted, hdialect, hfront] at hattempt
    refine ⟨s.store.memory, h.size, h.texts, h.left, ?_⟩
    rw [run_last h hattempt (by simp)]
    simp [Except.map]
  | case2 offset code hfront =>
    have hattempt := run_attempt handle h hflavour
    simp only [attempted, hdialect, hfront] at hattempt
    refine ⟨s.store.memory, h.size, h.texts, ?_⟩
    rw [run_last h hattempt (by simp)]
    rfl
  | case3 offset code length mnemonic operands hfront ih =>
    obtain ⟨hpositive, hlength⟩ := length_front hfront
    obtain ⟨hm, ho⟩ := phrases_of_front hfront
    have hnext := h.advanced hlength (length_stored_le _ hm) (length_stored_le _ ho)
    -- The instruction took a byte at least, so that a round is left for each byte after it.
    obtain ⟨steps, rfl⟩ : ∃ k, steps = k + 1 := Nat.exists_eq_add_one.mpr (by omega)
    have hrest : (code.drop length).length ≤ steps := by
      rw [List.length_drop]
      omega
    rw [run_round h hflavour (hdialect ▸ hfront)]
    generalize advanced s.store.memory mnemonic operands (offset + length) (code.length - length) = memory
      at hnext ⊢
    have hdecodes := ih (s := { s with store.memory := memory }) hnext hflavour hrest
      (decoded.push ⟨UInt64.ofNat offset, mnemonic, operands⟩)
    cases hreference : reference dialect (offset + length) (code.drop length) with
    | none =>
      rw [hreference] at hdecodes
      obtain ⟨m, hsize, htexts, houtcome⟩ := hdecodes
      exact ⟨m, hsize, htexts, houtcome⟩
    | some d =>
      rw [hreference] at hdecodes
      obtain ⟨m, hsize, htexts, hleft, houtcome⟩ := hdecodes
      refine ⟨m, hsize, htexts, hleft, ?_⟩
      rw [houtcome]
      simp [prepend]

/-! ## The input -/

/-- The longest input that there is room for. -/
def capacity : Nat := 61360

/-- The memory once the input and the cursor are in place. -/
def seeded (m : Memory) (code : List UInt8) : Memory :=
  (((m.patch 4176 code).patch 4160 (Word.littleEndian 4 (4176 : UInt32).toNat)).patch 4164
    (Word.littleEndian 4 (UInt32.ofNat code.length).toNat)).patch 4168
    (Word.littleEndian 8 (0 : UInt64).toNat)

theorem seed_of_le {m : Memory} (hsize : m.size = memorySize) {code : List UInt8}
    (hlength : code.length ≤ capacity) :
    Session.seed m 4176 code ⟨4160, 4164, 4168⟩ = (.ok (), seeded m code) := by
  unfold memorySize at hsize
  unfold capacity at hlength
  have hinput : (4176 : UInt32).toNat + code.length ≤ m.size := show 4176 + code.length ≤ m.size by omega
  simp only [Session.seed, Memory.writeWord32, Memory.writeWord64, Memory.editAll_write_eq_ok,
    Memory.editAll_nil_eq_ok, Memory.size_patch, Word.length_littleEndian]
  rw [hsize] at hinput ⊢
  exact ⟨hinput, by decide, by decide, by decide, rfl⟩

theorem seed_of_lt {m : Memory} (hsize : m.size = memorySize) {code : List UInt8}
    (hlength : capacity < code.length) :
    Session.seed m 4176 code ⟨4160, 4164, 4168⟩ = (.error ⟨4176, code.length, memorySize⟩, m) := by
  have hpast : ¬ ((4176 : UInt32).toNat + code.length ≤ m.size) := by
    show ¬ (4176 + code.length ≤ m.size)
    unfold memorySize at hsize
    unfold capacity at hlength
    omega
  rw [Session.seed_of_not_fits hpast, hsize]

theorem poised_seeded {m : Memory} (hsize : m.size = memorySize) (htexts : HasTexts m)
    {code : List UInt8} (hlength : code.length ≤ capacity) : Poised (seeded m code) 0 code where
  size := by simp [seeded, hsize]
  texts := (((htexts.patch _ (by decide)).patch _ (by decide)).patch _ (by decide)).patch _ (by decide)
  fits := by
    unfold capacity at hlength
    unfold memorySize
    omega
  next := by
    unfold seeded
    rw [Memory.word32_patch_disjoint (.inl (by omega)), Memory.word32_patch_disjoint (.inl (by omega)),
      Memory.word32_patch_self]
    · rfl
    · simp [hsize, memorySize]
  left := by
    unfold seeded
    rw [Memory.word32_patch_disjoint (.inl (by omega)), Memory.word32_patch_self]
    simp [hsize, memorySize]
  reached := by
    unfold seeded
    rw [Memory.word64_patch_self]
    · rfl
    · simp [hsize, memorySize]
  unread := by
    have hfits : 4176 + code.length ≤ m.size := by
      rw [hsize]
      unfold memorySize capacity at *
      omega
    unfold seeded
    rw [Memory.slice_patch_disjoint (.inr (by simp)), Memory.slice_patch_disjoint (.inr (by simp)),
      Memory.slice_patch_disjoint (.inr (by simp)), Memory.slice_patch_self hfits]

/-- What decoding a byte string is to come to. -/
def answer (dialect : Dialect) (code : List UInt8) : Except Stop Disassembly :=
  if 4294967296 ≤ code.length then .error (.panic (.inputTooLong code.length))
  else if capacity < code.length then
    .error (.panic (.invalidDatum .scratchBuffer ⟨4176, code.length, memorySize⟩))
  else match reference dialect 0 code with
    | some d => .ok d
    | none => .error fault

/-- The events that decoding a byte string is to leave behind. -/
def complaints (code : List UInt8) : Array Event :=
  if capacity < code.length ∧ code.length < 4294967296 then
    #[.invalidDatum .scratchBuffer ⟨4176, code.length, memorySize⟩]
  else #[]

theorem answer_of_le (dialect : Dialect) {code : List UInt8} (h : code.length ≤ capacity) :
    answer dialect code = match reference dialect 0 code with
      | some d => .ok d
      | none => .error fault := by
  have hcapacity : capacity < 4294967296 := by decide
  rw [answer, if_neg (by omega), if_neg (by omega)]

theorem complaints_of_le {code : List UInt8} (h : code.length ≤ capacity) : complaints code = #[] := by
  rw [complaints, if_neg (by omega)]

/-- A decode of the stand-in's never runs out of rounds. -/
theorem answer_ne_stepsExhausted (dialect : Dialect) (code : List UInt8) :
    answer dialect code ≠ .error .stepsExhausted := by
  unfold answer
  split
  · simp
  · split
    · simp
    · cases reference dialect 0 code <;> simp [fault]

section

variable (handle : UInt32) {code : List UInt8} {steps : Nat} {s : Scene Globals}

/-- With all scratch memory in place, an input that there is room for is decoded. -/
theorem run_decodeIn_of_le (hfits : code.length ≤ capacity) (hsteps : capacity < steps)
    (hsize : s.store.memory.size = memorySize) (htexts : HasTexts s.store.memory)
    (hflavour : s.store.globals.syntaxValue = 8) :
    ∃ m, m.size = memorySize ∧ HasTexts m ∧
      (Session.decodeIn guest handle steps code recordAt 4160 4176).run s =
        (answer (dialectOf handle) code, { s with store.memory := m }) := by
  have hcapacity : capacity < 4294967296 := by decide
  have hcursor : Session.Cursor.at? 4160 = some ⟨4160, 4164, 4168⟩ := by decide
  have halter : (Host.alter .scratchBuffer fun m => Session.seed m 4176 code ⟨4160, 4164, 4168⟩).run s =
      (.ok (), { s with store.memory := seeded s.store.memory code }) := by
    rw [Host.alter_eq_ok, seed_of_le hsize hfits]
    exact ⟨rfl, rfl⟩
  obtain ⟨steps, rfl⟩ : ∃ k, steps = k + 1 := Nat.exists_eq_add_one.mpr (by omega)
  have hdecodes := run_decodeAll (s := { s with store.memory := seeded s.store.memory code })
    (Eq.refl (dialectOf handle)) (poised_seeded hsize htexts hfits) hflavour
    (show code.length ≤ steps by omega) #[]
  unfold Session.decodeIn
  simp only [hcursor]
  rw [Host.run_bind_of_ok halter, answer_of_le _ hfits]
  cases hreference : reference (dialectOf handle) 0 code with
  | none =>
    rw [hreference] at hdecodes
    obtain ⟨m, hsize, htexts, houtcome⟩ := hdecodes
    refine ⟨m, hsize, htexts, ?_⟩
    rw [Host.run_bind_of_error houtcome]
  | some d =>
    rw [hreference] at hdecodes
    obtain ⟨m, hsize, htexts, hleft, houtcome⟩ := hdecodes
    refine ⟨m, hsize, htexts, ?_⟩
    have hread : m.readWord32 4164 = .ok (UInt32.ofNat d.remaining) := by
      rw [Memory.readWord32_eq_ok, hsize]
      exact ⟨by decide, hleft⟩
    have hremaining := remaining_le hreference
    rw [Host.run_bind_of_ok houtcome, Host.run_bind_of_ok (Host.inspect_eq_ok.mpr ⟨hread, rfl⟩),
      Host.run_pure, UInt32.toNat_ofNat_of_lt' (show _ < 4294967296 by omega)]
    simp

/-- A longer input is refused when it is to be copied, and the memory stays as it is. -/
theorem run_decodeIn_of_lt (hlong : capacity < code.length) (hlength : code.length < 4294967296)
    (hsize : s.store.memory.size = memorySize) :
    (Session.decodeIn guest handle steps code recordAt 4160 4176).run s =
      (answer (dialectOf handle) code, { s with events := s.events ++ complaints code }) := by
  have hcursor : Session.Cursor.at? 4160 = some ⟨4160, 4164, 4168⟩ := by decide
  have halter : (Host.alter .scratchBuffer fun m => Session.seed m 4176 code ⟨4160, 4164, 4168⟩).run s =
      (Host.invalid .scratchBuffer ⟨4176, code.length, memorySize⟩).run s := by
    rw [Host.run_alter, seed_of_lt hsize hlong]
  unfold Session.decodeIn
  simp only [hcursor]
  rw [Host.run_bind_of_error (halter.trans (Host.run_invalid ..)), answer, if_neg (by omega),
    if_pos hlong, complaints, if_pos ⟨hlong, hlength⟩]
  simp

/-- The part of a decode between its allocations and its releases. -/
theorem run_decodeIn (hlength : code.length < 4294967296) (hsteps : capacity < steps)
    (hsize : s.store.memory.size = memorySize) (htexts : HasTexts s.store.memory)
    (hflavour : s.store.globals.syntaxValue = 8) :
    ∃ m, m.size = memorySize ∧ HasTexts m ∧
      (Session.decodeIn guest handle steps code recordAt 4160 4176).run s =
        (answer (dialectOf handle) code,
          { s with store.memory := m, events := s.events ++ complaints code }) := by
  by_cases hfits : code.length ≤ capacity
  · obtain ⟨m, hm, htexts, hrun⟩ := run_decodeIn_of_le handle hfits hsteps hsize htexts hflavour
    exact ⟨m, hm, htexts, by rw [hrun, complaints_of_le hfits, Array.append_empty]⟩
  · exact ⟨s.store.memory, hsize, htexts, run_decodeIn_of_lt handle (Nat.not_le.mp hfits) hlength hsize⟩

end

/-! ## A whole decode -/

/-- **A stand-in between decodes.** Nothing is allocated, the heap is as at the start, and the texts are in
place; what else the heap holds does not matter. -/
structure Idle (s : Store Globals) : Prop where
  size : s.memory.size = memorySize
  texts : HasTexts s.memory
  heap : s.globals.heap = 4096
  live : s.globals.live = 0
  flavour : s.globals.syntaxValue = 8

theorem Idle.within {s : Store Globals} (h : Idle s) (surroundings : Surroundings) : Idle (s.within surroundings) :=
  ⟨h.size, h.texts, h.heap, h.live, h.flavour⟩

theorem settle_of_ne {outcome : Except Stop α} (h : outcome ≠ .error .stepsExhausted) (t : Scene Globals) :
    settle (outcome, t) = (outcome, { t with store := givenBack t.store }) := by
  rcases outcome with (p | _) | a
  · rfl
  · exact absurd rfl h
  · rfl

theorem heap_taken {s : Store Globals} {before after size : UInt32} (h : s.globals.heap = before)
    (hnext : (before + size + 7) &&& 0xFFFFFFF8 = after) : (taken s size).globals.heap = after := by
  subst h
  exact hnext

/-- The scene once the scratch memory for an input has been allocated. -/
def furnished (s : Scene Globals) (length : Nat) : Scene Globals :=
  { s with store := taken (taken (taken s.store 64) 16) (UInt32.ofNat length) }

/-- On a fresh heap a decode runs with its scratch memory at the known places. -/
theorem run_disassemble_of_heap {s : Scene Globals} (hheap : s.store.globals.heap = 4096) (handle : UInt32)
    {code : List UInt8} (hlength : code.length < 4294967296) (steps : Nat) :
    (Session.disassemble guest handle steps code).run s = settle (settle (settle
      ((Session.decodeIn guest handle steps code recordAt 4160 4176).run (furnished s code.length)))) := by
  have hcursor : (taken s.store 64).globals.heap = 4160 := heap_taken hheap (by decide)
  have hinput : (taken (taken s.store 64) 16).globals.heap = 4176 := heap_taken hcursor (by decide)
  have hcursorNull : (taken s.store 64).globals.heap ≠ 0 := by
    rw [hcursor]
    decide
  have hinputNull : (taken (taken s.store 64) 16).globals.heap ≠ 0 := by
    rw [hinput]
    decide
  unfold Session.disassemble
  -- The three allocations, from the outside in; each leaves the heap where the next one starts.
  rw [if_neg (by omega), run_withRecord (by rw [hheap]; decide), hheap]
  congr 1
  rw [run_withBlock (by decide) hcursorNull]
  congr 1
  rw [run_withBlock hlength hinputNull]
  show settle ((Session.decodeIn guest handle steps code recordAt (taken s.store 64).globals.heap
    (taken (taken s.store 64) 16).globals.heap).run (furnished s code.length)) = _
  rw [hcursor, hinput]

/-- **A decode answers as the reference does, and leaves an idle stand-in idle.** It has no part in the surroundings. -/
theorem Idle.run_disassemble {s : Scene Globals} (h : Idle s.store) (handle : UInt32) {steps : Nat}
    (hsteps : capacity < steps) (code : List UInt8) :
    ∃ t, Idle t.store ∧ t.store.surroundings = s.store.surroundings ∧ t.events = s.events ++ complaints code ∧
      (Session.disassemble guest handle steps code).run s = (answer (dialectOf handle) code, t) := by
  by_cases hlong : 4294967296 ≤ code.length
  · refine ⟨s, h, rfl, ?_, ?_⟩
    · rw [complaints, if_neg (by omega), Array.append_empty]
    · rw [Session.disassemble, if_pos hlong, Host.run_bind_of_error (Host.run_panic ..), answer,
        if_pos hlong]
  · have hlength : code.length < 4294967296 := Nat.not_le.mp hlong
    -- All three blocks are given back, since the rounds do not run out.
    have hends := answer_ne_stepsExhausted (dialectOf handle) code
    have hlive : s.store.globals.live + 1 + 1 + 1 - 1 - 1 - 1 = 0 := by
      rw [h.live]
      decide
    obtain ⟨m, hsize, htexts, hdecode⟩ :=
      run_decodeIn (s := furnished s code.length) handle hlength hsteps h.size h.texts h.flavour
    rw [run_disassemble_of_heap h.heap handle hlength, hdecode, settle_of_ne hends, settle_of_ne hends,
      settle_of_ne hends]
    refine ⟨_, ⟨?_, ?_, ?_, ?_, ?_⟩, ?_, ?_, rfl⟩
    · exact hsize
    · exact htexts
    · rw [heap_givenBack, if_pos (by simpa [furnished] using hlive)]
    · simpa [furnished] using hlive
    · simpa [furnished] using h.flavour
    · rfl
    · rfl

end DecoderHost.StandIn

import DecoderHost.Proofs.Session.Cursor
import DecoderHost.Proofs.Session.GuestText
import DecoderHost.Proofs.Session.Scratch
import Mathlib.Data.List.Forall2

/-!
# The protocol of a decode

A decode that gives an answer has made a fixed sequence of calls: three allocations, one round of three
calls for each instruction, a last attempt that finds no instruction, and three releases. Each part of the
answer was read from the guest's memory at one moment between two of these calls. `disassemble_follows` ties
the answer to the calls; the guest may do anything to its memory inside them.
-/

namespace DecoderHost

variable {σ α : Type}

/-- The address that a call gave. -/
def Call.pointer? (c : Call) : Option UInt32 := c.returned?.map UInt64.toUInt32

/-- The calls of a round that decoded an instruction. -/
structure Round where
  decode : Call
  mnemonic : Call
  operands : Call

/-- The calls of a round in order. -/
def Round.calls (r : Round) : List Call := [r.decode, r.mnemonic, r.operands]

/-- A text of the guest's, at the address that a call gave and as it stands in a memory. -/
def Memory.ShowsText (m : Memory) (c : Call) (text : String) : Prop :=
  ∃ address bytes, c.pointer? = some address ∧ m.HasText address.toNat bytes ∧
    text = String.ofList (Text.Utf8.repair bytes)

/-- The request to decode one instruction with the cursor block and the record at these addresses. -/
def Session.attempt (handle cursor record : UInt32) : String × List UInt64 :=
  ("cs_disasm_iter", [handle.toUInt64, cursor.toUInt64, (cursor + 4).toUInt64, (cursor + 8).toUInt64,
    record.toUInt64])

/-- **A round decodes an instruction.** The offset was read just before the guest was asked to decode, the
two texts after the last call of the round. -/
structure Round.Decodes (handle cursor record : UInt32) (r : Round) (i : Instruction) : Prop where
  decode_request : r.decode.request = Session.attempt handle cursor record
  decoded : ∃ number, r.decode.returned? = some number ∧ number ≠ 0
  mnemonic_request : r.mnemonic.request = ("cs_get_mnemonic", [record.toUInt64])
  operands_request : r.operands.request = ("cs_get_op_str", [record.toUInt64])
  offset : r.decode.before.readWord64 (cursor + 8) = .ok i.offset
  mnemonic : r.operands.after.ShowsText r.mnemonic i.mnemonic
  operands : r.operands.after.ShowsText r.operands i.operands

/-- The calls of a finished decode, and the addresses it was given. -/
structure Transcript where
  record : UInt32
  cursor : UInt32
  input : UInt32
  takeRecord : Call
  takeCursor : Call
  takeInput : Call
  rounds : List Round
  last : Call
  freeInput : Call
  freeCursor : Call
  freeRecord : Call

namespace Transcript

/-- The calls in order. -/
def calls (t : Transcript) : List Call :=
  [t.takeRecord, t.takeCursor, t.takeInput] ++ t.rounds.flatMap Round.calls ++
    [t.last, t.freeInput, t.freeCursor, t.freeRecord]

/-- The first attempt to decode an instruction. -/
def firstAttempt (t : Transcript) : Call := (t.rounds.head?.map Round.decode).getD t.last

/-- **The calls of a decode that answered.** Each call is the one that the protocol asks for, the memory is
seeded when the first attempt is made, and every part of the answer is in the memory at its moment. -/
structure Answers (t : Transcript) (handle : UInt32) (code : List UInt8) (d : Disassembly) : Prop where
  takeRecord : t.takeRecord.request = ("cs_malloc", [handle.toUInt64]) ∧
    t.takeRecord.pointer? = some t.record ∧ t.record ≠ 0
  takeCursor : t.takeCursor.request = ("malloc", [16]) ∧
    t.takeCursor.pointer? = some t.cursor ∧ t.cursor ≠ 0
  takeInput : t.takeInput.request = ("malloc", [UInt64.ofNat code.length]) ∧
    t.takeInput.pointer? = some t.input ∧ (t.input = 0 → code = [])
  length_lt : code.length < 4294967296
  cursor_lt : t.cursor.toNat + 8 < 4294967296
  codeSlot : t.firstAttempt.before.readWord32 t.cursor = .ok t.input
  sizeSlot : t.firstAttempt.before.readWord32 (t.cursor + 4) = .ok (UInt32.ofNat code.length)
  offsetSlot : t.firstAttempt.before.readWord64 (t.cursor + 8) = .ok 0
  seeded : t.input.toNat + code.length ≤ t.cursor.toNat ∨ t.cursor.toNat + 16 ≤ t.input.toNat →
    t.firstAttempt.before.read t.input code.length = .ok code
  rounds : List.Forall₂ (Round.Decodes handle t.cursor t.record) t.rounds d.instructions
  last : t.last.request = Session.attempt handle t.cursor t.record ∧ t.last.returned? = some 0
  remaining : ∃ left, t.last.after.readWord32 (t.cursor + 4) = .ok left ∧ d.remaining = left.toNat
  freeInput : t.freeInput.request = ("free", [t.input.toUInt64])
  freeCursor : t.freeCursor.request = ("free", [t.cursor.toUInt64])
  freeRecord : t.freeRecord.request = ("cs_free", [t.record.toUInt64, 1])

end Transcript

/-! ## Finished operations -/

theorem Call.pointer?_of_returned? {c : Call} {number : UInt64} (h : c.returned? = some number) :
    c.pointer? = some number.toUInt32 := by
  rw [Call.pointer?, h, Option.map_some]

namespace Guest

variable {g : Guest σ} {s t : Scene (σ × List Call)}

/-- A call whose number is taken for an address. -/
theorem call_pointer_eq_ok {name : String} {arguments : List UInt64} {address : UInt32}
    (hsmall : ∀ a ∈ arguments, a.toNat < 4294967296)
    (h : Host.run (do return (← g.recorded.call name arguments).toUInt32) s = (.ok address, t)) :
    ∃ c, g.Makes s c t ∧ c.request = (name, arguments) ∧ c.pointer? = some address := by
  obtain ⟨number, u, hcall, hpure⟩ := Host.bind_eq_ok.mp h
  obtain ⟨c, hmade, hrequest, hreturned⟩ := call_recorded_eq_ok hsmall hcall
  simp only [Host.run_pure, Prod.mk.injEq, Except.ok.injEq] at hpure
  obtain ⟨rfl, rfl⟩ := hpure
  exact ⟨c, hmade, hrequest, Call.pointer?_of_returned? hreturned⟩

theorem malloc_recorded_eq_ok {size : Nat} {address : UInt32} (hsize : size < 4294967296)
    (h : (g.recorded.malloc size).run s = (.ok address, t)) :
    ∃ c, g.Makes s c t ∧ c.request = ("malloc", [UInt64.ofNat size]) ∧ c.pointer? = some address :=
  call_pointer_eq_ok (size_lt hsize) (resolve_bind_eq_ok.mp h).2

theorem csMalloc_recorded_eq_ok {handle address : UInt32}
    (h : (g.recorded.csMalloc handle).run s = (.ok address, t)) :
    ∃ c, g.Makes s c t ∧ c.request = ("cs_malloc", [handle.toUInt64]) ∧ c.pointer? = some address :=
  call_pointer_eq_ok (words_lt [handle]) (resolve_bind_eq_ok.mp h).2

/-- An attempt to decode is one call, and succeeds if its number is not zero. -/
theorem csDisasmIter_recorded_eq_ok {handle cursor record : UInt32} {found : Bool}
    (h : (g.recorded.csDisasmIter handle cursor (cursor + 4) (cursor + 8) record).run s =
      (.ok found, t)) :
    ∃ c number, g.Makes s c t ∧ c.request = Session.attempt handle cursor record ∧
      c.returned? = some number ∧ found = (number != 0) := by
  obtain ⟨number, u, hcall, hpure⟩ := Host.bind_eq_ok.mp h
  obtain ⟨c, hmade, hrequest, hreturned⟩ :=
    call_recorded_eq_ok (words_lt [handle, cursor, cursor + 4, cursor + 8, record]) hcall
  simp only [Host.run_pure, Prod.mk.injEq, Except.ok.injEq] at hpure
  obtain ⟨rfl, rfl⟩ := hpure
  exact ⟨c, number, hmade, hrequest, hreturned, rfl⟩

/-- A try that did not stop the host was a call, and its reply is the host's reading of how that ended. -/
theorem tryCall_recorded_eq_ok {name : String} {arguments : List UInt64}
    {reply : Except HostError UInt64} (hsmall : ∀ a ∈ arguments, a.toNat < 4294967296)
    (h : (g.recorded.tryCall name arguments).run s = (.ok reply, t)) :
    ∃ c, g.Makes s c t ∧ c.request = (name, arguments) ∧ c.answer = .ok reply := by
  cases hp : g.prepare name arguments with
  | error p =>
    rw [run_tryCall_unprepared (g := g.recorded) hp] at h
    simp at h
  | ok values =>
    obtain ⟨c, u, hmade, hname, harguments, hrun⟩ := run_tryCall_recorded hp s
    rw [hrun, Prod.mk.injEq] at h
    obtain ⟨hreply, rfl⟩ := h
    refine ⟨c, hmade, ?_, hreply⟩
    rw [Call.request, hname, harguments, numbers_of_prepare hp hsmall]

end Guest

namespace Session

variable {g : Guest σ} {s t : Scene (σ × List Call)}

/-- A release that did not stop the host was a call. -/
theorem release_recorded_eq_ok {allocation : Allocation}
    (h : (release g.recorded allocation).run s = (.ok (), t)) :
    ∃ c : Call, t.calls = s.calls ++ [c] ∧
      c.request = (allocation.releaseFunction, allocation.releaseArguments) := by
  rw [run_release] at h
  rcases htry : (g.recorded.tryCall allocation.releaseFunction allocation.releaseArguments).run s with
    ⟨stop | reply, u⟩
  · simp [htry] at h
  · obtain ⟨c, hmade, hrequest, -⟩ := Guest.tryCall_recorded_eq_ok allocation.releaseArguments_lt htry
    refine ⟨c, ?_, hrequest⟩
    rw [htry] at h
    cases reply with
    | ok _ =>
      simp only [Prod.mk.injEq, true_and] at h
      rw [← h, hmade.calls]
    | error e =>
      simp only [Host.run_record, Prod.mk.injEq, true_and] at h
      rw [← h, ← hmade.calls]
      rfl

theorem withAllocation_recorded_eq_ok {allocation : Allocation} {body : Host (σ × List Call) α} {a : α}
    (h : (withAllocation g.recorded allocation body).run s = (.ok a, t)) :
    ∃ u c, body.run s = (.ok a, u) ∧ t.calls = u.calls ++ [c] ∧
      c.request = (allocation.releaseFunction, allocation.releaseArguments) := by
  obtain ⟨u, hbody, hrelease⟩ := Host.ensuring_eq_ok.mp h
  obtain ⟨c, hcalls, hrequest⟩ := release_recorded_eq_ok hrelease
  exact ⟨u, c, hbody, hcalls, hrequest⟩

/-- A block is used between the call that takes it and the call that frees it. -/
theorem withBlock_recorded_eq_ok {size : Nat} {body : UInt32 → Host (σ × List Call) α} {a : α}
    (hsize : size < 4294967296) (h : (withBlock g.recorded size body).run s = (.ok a, t)) :
    ∃ address c u v d, g.Makes s c u ∧ c.request = ("malloc", [UInt64.ofNat size]) ∧
      c.pointer? = some address ∧ (address = 0 → size = 0) ∧ (body address).run u = (.ok a, v) ∧
      t.calls = v.calls ++ [d] ∧ d.request = ("free", [address.toUInt64]) := by
  obtain ⟨address, u, hmalloc, hrest⟩ := Host.bind_eq_ok.mp h
  obtain ⟨c, hmade, hrequest, hpointer⟩ := Guest.malloc_recorded_eq_ok hsize hmalloc
  split at hrest
  · obtain ⟨_, _, hpanic, _⟩ := Host.bind_eq_ok.mp hrest
    simp at hpanic
  · rename_i hnull
    obtain ⟨v, d, hbody, hcalls, hfree⟩ := withAllocation_recorded_eq_ok hrest
    refine ⟨address, c, u, v, d, hmade, hrequest, hpointer, ?_, hbody, hcalls, hfree⟩
    intro hzero
    by_contra hsize
    exact hnull ⟨hzero, hsize⟩

/-- A record is used between the call that takes it and the call that frees it. -/
theorem withRecord_recorded_eq_ok {handle : UInt32} {body : UInt32 → Host (σ × List Call) α} {a : α}
    (h : (withRecord g.recorded handle body).run s = (.ok a, t)) :
    ∃ address c u v d, g.Makes s c u ∧ c.request = ("cs_malloc", [handle.toUInt64]) ∧
      c.pointer? = some address ∧ address ≠ 0 ∧ (body address).run u = (.ok a, v) ∧
      t.calls = v.calls ++ [d] ∧ d.request = ("cs_free", [address.toUInt64, 1]) := by
  obtain ⟨address, u, hmalloc, hrest⟩ := Host.bind_eq_ok.mp h
  obtain ⟨c, hmade, hrequest, hpointer⟩ := Guest.csMalloc_recorded_eq_ok hmalloc
  split at hrest
  · obtain ⟨_, _, hpanic, _⟩ := Host.bind_eq_ok.mp hrest
    simp at hpanic
  · rename_i hnull
    obtain ⟨v, d, hbody, hcalls, hfree⟩ := withAllocation_recorded_eq_ok hrest
    exact ⟨address, c, u, v, d, hmade, hrequest, hpointer, hnull, hbody, hcalls, hfree⟩

/-- The calls of a loop that came to its end: rounds, and an attempt without result. The memory before the
first of them is `before`. -/
structure Rounds (handle cursor record : UInt32) (before : Memory) (rounds : List Round) (last : Call)
    (instructions : List Instruction) : Prop where
  decodes : List.Forall₂ (Round.Decodes handle cursor record) rounds instructions
  last_request : last.request = attempt handle cursor record
  last_returned : last.returned? = some 0
  first : ((rounds.head?.map Round.decode).getD last).before = before

/-- One round of the loop, by its three calls and the instruction they make. -/
theorem round_recorded_eq_ok {handle cursor record : UInt32} {offset : UInt64}
    {c : Call} {number : UInt64} {u : Scene (σ × List Call)}
    (rest : Instruction → Host (σ × List Call) α) {a : α}
    (hoffset : s.store.memory.readWord64 (cursor + 8) = .ok offset)
    (hmade : g.Makes s c u) (hrequest : c.request = attempt handle cursor record)
    (hreturned : c.returned? = some number) (hfound : number ≠ 0)
    (h : Host.run (do
      let mnemonicAt ← g.recorded.csMnemonic record
      let operandsAt ← g.recorded.csOperands record
      let mnemonic ← guestText .mnemonic mnemonicAt
      let operands ← guestText .operands operandsAt
      rest ⟨offset, mnemonic, operands⟩) u = (.ok a, t)) :
    ∃ (r : Round) (v : Scene (σ × List Call)) (i : Instruction),
      r.Decodes handle cursor record i ∧ r.decode.before = s.store.memory ∧
      v.calls = s.calls ++ r.calls ∧ (rest i).run v = (.ok a, t) := by
  obtain ⟨mnemonicAt, v, hmnemonicCall, hreads⟩ := Host.bind_eq_ok.mp h
  obtain ⟨operandsAt, w, hoperandsCall, hreads⟩ := Host.bind_eq_ok.mp hreads
  obtain ⟨mnemonic, _, hmnemonic, hread⟩ := Host.bind_eq_ok.mp hreads
  obtain ⟨operands, _, hoperands, hrest⟩ := Host.bind_eq_ok.mp hread
  obtain ⟨rfl, mnemonicBytes, hmnemonicText, hmnemonicRepair⟩ := guestText_eq_ok hmnemonic
  obtain ⟨rfl, operandsBytes, hoperandsText, hoperandsRepair⟩ := guestText_eq_ok hoperands
  obtain ⟨d, hmadeMnemonic, hrequestMnemonic, hmnemonicPointer⟩ :=
    Guest.call_pointer_eq_ok (Guest.words_lt [record]) hmnemonicCall
  obtain ⟨e, hmadeOperands, hrequestOperands, hoperandsPointer⟩ :=
    Guest.call_pointer_eq_ok (Guest.words_lt [record]) hoperandsCall
  refine ⟨⟨c, d, e⟩, _, ⟨offset, mnemonic, operands⟩, ⟨hrequest, ⟨number, hreturned, hfound⟩,
    hrequestMnemonic, hrequestOperands, ?_, ?_, ?_⟩, hmade.before, ?_, hrest⟩
  · rw [hmade.before]
    exact hoffset
  · rw [hmadeOperands.after]
    exact ⟨mnemonicAt, mnemonicBytes, hmnemonicPointer, hmnemonicText, hmnemonicRepair⟩
  · rw [hmadeOperands.after]
    exact ⟨operandsAt, operandsBytes, hoperandsPointer, hoperandsText, hoperandsRepair⟩
  · rw [hmadeOperands.calls, hmadeMnemonic.calls, hmade.calls]
    simp [Round.calls]

/-- A finished loop is a sequence of rounds, one for each instruction it adds, and a last attempt. -/
theorem decodeAll_recorded_eq_ok {handle cursor record : UInt32} (steps : Nat)
    (decoded : Array Instruction) {all : Array Instruction}
    (h : (decodeAll g.recorded handle ⟨cursor, cursor + 4, cursor + 8⟩ record steps decoded).run s =
      (.ok all, t)) :
    ∃ rounds last instructions, Rounds handle cursor record s.store.memory rounds last instructions ∧
      last.after = t.store.memory ∧ t.calls = s.calls ++ rounds.flatMap Round.calls ++ [last] ∧
      all.toList = decoded.toList ++ instructions := by
  -- A step either is the last attempt or goes before the rounds that the rest of the loop makes.
  induction steps generalizing s decoded with
  | zero => simp [decodeAll] at h
  | succ steps ih =>
    obtain ⟨offset, _, hlook, hround⟩ := Host.bind_eq_ok.mp h
    obtain ⟨found, u, hattempt, hrest⟩ := Host.bind_eq_ok.mp hround
    obtain ⟨hoffset, rfl⟩ := Host.inspect_eq_ok.mp hlook
    obtain ⟨c, number, hmade, hrequest, hreturned, hfound⟩ :=
      Guest.csDisasmIter_recorded_eq_ok hattempt
    by_cases hzero : number = 0
    · subst hzero
      simp only [hfound, bne_self_eq_false, Bool.false_eq_true, if_false, Host.run_pure,
        Prod.mk.injEq, Except.ok.injEq] at hrest
      obtain ⟨rfl, rfl⟩ := hrest
      exact ⟨[], c, [], ⟨.nil, hrequest, hreturned, hmade.before⟩, hmade.after,
        by simpa using hmade.calls, by simp⟩
    · have hfound : found = true := hfound.trans (bne_iff_ne.mpr hzero)
      subst hfound
      obtain ⟨r, v, i, hdecodes, hbefore, hcalls, hnext⟩ :=
        round_recorded_eq_ok (fun i => decodeAll g.recorded handle _ record steps (decoded.push i)) hoffset
          hmade hrequest hreturned hzero hrest
      obtain ⟨rounds, last, instructions, hrounds, hafter, hmore, hall⟩ := ih _ hnext
      refine ⟨r :: rounds, last, i :: instructions,
        ⟨.cons hdecodes hrounds.decodes, hrounds.last_request, hrounds.last_returned, hbefore⟩, hafter,
        ?_, ?_⟩
      · rw [hmore, hcalls]
        simp
      · rw [hall]
        simp

/-- The part of a decode between its allocations and its releases. -/
theorem decodeIn_recorded_eq_ok {handle record cursor input : UInt32} {steps : Nat} {code : List UInt8}
    {d : Disassembly} (h : (decodeIn g.recorded handle steps code record cursor input).run s = (.ok d, t)) :
    ∃ seeded rounds last left, cursor.toNat + 8 < 4294967296 ∧
      seed s.store.memory input code ⟨cursor, cursor + 4, cursor + 8⟩ = (.ok (), seeded) ∧
      Rounds handle cursor record seeded rounds last d.instructions ∧
      last.after.readWord32 (cursor + 4) = .ok left ∧ d.remaining = left.toNat ∧
      t.calls = s.calls ++ rounds.flatMap Round.calls ++ [last] := by
  unfold decodeIn Cursor.at? at h
  by_cases hlt : cursor.toNat + 8 < 4294967296
  · simp only [hlt, if_true] at h
    obtain ⟨⟨⟩, u, hseed, hloop⟩ := Host.bind_eq_ok.mp h
    obtain ⟨all, v, hall, hlook⟩ := Host.bind_eq_ok.mp hloop
    obtain ⟨left, _, hleft, hpure⟩ := Host.bind_eq_ok.mp hlook
    obtain ⟨hread, rfl⟩ := Host.inspect_eq_ok.mp hleft
    obtain ⟨hseeded, rfl⟩ := Host.alter_eq_ok.mp hseed
    obtain ⟨rounds, last, instructions, hrounds, hafter, hcalls, hinstructions⟩ :=
      decodeAll_recorded_eq_ok steps #[] hall
    simp only [Host.run_pure, Prod.mk.injEq, Except.ok.injEq] at hpure
    obtain ⟨rfl, rfl⟩ := hpure
    refine ⟨_, rounds, last, left, hlt, Prod.ext hseeded rfl, ?_, ?_, rfl, hcalls⟩
    · simpa [hinstructions] using hrounds
    · rw [hafter]
      exact hread
  · simp [hlt] at h

/-- A finished decode of a recorded guest has a transcript. -/
theorem disassemble_recorded_eq_ok {handle : UInt32} {steps : Nat} {code : List UInt8} {d : Disassembly}
    (h : (disassemble g.recorded handle steps code).run s = (.ok d, t)) :
    ∃ transcript : Transcript, t.calls = s.calls ++ transcript.calls ∧
      transcript.Answers handle code d := by
  unfold disassemble at h
  split at h
  · obtain ⟨_, _, hpanic, _⟩ := Host.bind_eq_ok.mp h
    simp at hpanic
  · rename_i hlength
    have hlength : code.length < 4294967296 := Nat.not_le.mp hlength
    -- Going in, each allocation gives the scene `sᵢ` after it; coming out, `tᵢ` is the scene before its release.
    obtain ⟨record, takeRecord, s₁, t₁, freeRecord, hmade₁, hrecord, hrecordAt, hrecordNull, h, hcalls₁,
      hfreeRecord⟩ := withRecord_recorded_eq_ok h
    obtain ⟨cursor, takeCursor, s₂, t₂, freeCursor, hmade₂, hcursor, hcursorAt, hcursorNull, h, hcalls₂,
      hfreeCursor⟩ := withBlock_recorded_eq_ok (by decide) h
    obtain ⟨input, takeInput, s₃, t₃, freeInput, hmade₃, hinput, hinputAt, hinputNull, h, hcalls₃,
      hfreeInput⟩ := withBlock_recorded_eq_ok hlength h
    obtain ⟨seeded, rounds, last, left, hlt, hseed, hrounds, hleft, hremaining, hcalls⟩ :=
      decodeIn_recorded_eq_ok h
    obtain ⟨hcodeSlot, hsizeSlot, hoffsetSlot, hcode⟩ := seed_eq_ok hlt hseed
    refine ⟨⟨record, cursor, input, takeRecord, takeCursor, takeInput, rounds, last, freeInput,
      freeCursor, freeRecord⟩, ?_, ?_⟩
    · rw [hcalls₁, hcalls₂, hcalls₃, hcalls, hmade₃.calls, hmade₂.calls, hmade₁.calls]
      simp [Transcript.calls]
    · have hfirst := hrounds.first
      refine {
        takeRecord := ⟨hrecord, hrecordAt, hrecordNull⟩
        takeCursor := ⟨hcursor, hcursorAt, fun hzero => by simpa [cursorSize] using hcursorNull hzero⟩
        takeInput := ⟨hinput, hinputAt, fun hzero => List.eq_nil_of_length_eq_zero (hinputNull hzero)⟩
        length_lt := hlength
        cursor_lt := hlt
        codeSlot := ?_
        sizeSlot := ?_
        offsetSlot := ?_
        seeded := ?_
        rounds := hrounds.decodes
        last := ⟨hrounds.last_request, hrounds.last_returned⟩
        remaining := ⟨left, hleft, hremaining⟩
        freeInput := hfreeInput
        freeCursor := hfreeCursor
        freeRecord := hfreeRecord }
      all_goals
        simp only [Transcript.firstAttempt, hfirst]
        assumption

/-- **A decode follows the protocol.** Whatever the guest does, a decode that gives an answer has made exactly
the calls of a transcript that accounts for the answer. The lines made of the answer are the mnemonics, each
followed by a space and its operands unless those are empty. -/
theorem disassemble_follows {g : Guest σ} {handle : UInt32} {steps : Nat} {code : List UInt8}
    {s t : Scene σ} {d : Disassembly} (h : (disassemble g handle steps code).run s = (.ok d, t)) :
    (∃ transcript : Transcript, callsOf g handle steps code s = transcript.calls ∧
      transcript.Answers handle code d) ∧
    d.lines = d.instructions.map fun i =>
      if i.operands = "" then i.mnemonic else i.mnemonic ++ " " ++ i.operands := by
  constructor
  · have hmirror := run_disassemble_recorded g handle steps code s
    rcases hrecorded : (disassemble g.recorded handle steps code).run s.recorded with ⟨outcome, u⟩
    rw [hrecorded, h] at hmirror
    simp only [Prod.map_apply, id_eq, Prod.mk.injEq] at hmirror
    obtain ⟨transcript, hcalls, hanswers⟩ := disassemble_recorded_eq_ok (hmirror.1 ▸ hrecorded)
    refine ⟨transcript, ?_, hanswers⟩
    rw [callsOf, hrecorded]
    exact hcalls
  · simp only [Disassembly.lines, List.map_inj_left]
    intro i _
    simp only [Instruction.line, String.isEmpty_iff]

/-- A store with one text in its memory. -/
def terseStore : Store Bool := ⟨(Memory.zeroed 64 (by decide)).patch 40 [110, 111, 112], 0, false, {}⟩

/-- A guest that decodes one instruction of any input, whose text is in its memory from the start. -/
def terse : Guest Bool where
  exports := [("free", .function ⟨[.i32], []⟩), ("cs_free", .function ⟨[.i32, .i64], [.i32]⟩),
    ("malloc", .function ⟨[.i32], [.i32]⟩), ("cs_malloc", .function ⟨[.i32], [.i32]⟩),
    ("cs_disasm_iter", .function ⟨[.i32, .i32, .i32, .i32, .i32], [.i32]⟩),
    ("cs_get_mnemonic", .function ⟨[.i32], [.i32]⟩), ("cs_get_op_str", .function ⟨[.i32], [.i32]⟩)]
  initialPages := 0
  start _ surroundings := .ok (terseStore.within surroundings)
  invoke name arguments := fun s =>
    match name, arguments with
    | "cs_malloc", _ => (.ok [.i32 8], s)
    | "malloc", [.i32 16] => (.ok [.i32 16], s)
    | "malloc", _ => (.ok [.i32 32], s)
    | "cs_disasm_iter", _ =>
      (.ok [.i32 (if s.globals then 0 else 1)], { s with memory := s.memory.patch 20 [0], globals := true })
    | "cs_get_mnemonic", _ => (.ok [.i32 40], s)
    | "cs_get_op_str", _ => (.ok [.i32 43], s)
    | _, _ => (.ok [.i32 0], s)

/-- A decode of one instruction makes ten calls. -/
theorem terse_follows :
    ((disassemble terse 7 2 [0x90]).run { store := terseStore }).1 = .ok ⟨[⟨0, "nop", ""⟩], 0⟩ ∧
    ∃ transcript : Transcript, transcript.Answers 7 [0x90] ⟨[⟨0, "nop", ""⟩], 0⟩ ∧
      transcript.calls.map Call.request =
        [("cs_malloc", [7]), ("malloc", [16]), ("malloc", [1]),
          ("cs_disasm_iter", [7, 16, 20, 24, 8]), ("cs_get_mnemonic", [8]), ("cs_get_op_str", [8]),
          ("cs_disasm_iter", [7, 16, 20, 24, 8]),
          ("free", [32]), ("free", [16]), ("cs_free", [8, 1])] := by
  have hdecoded : ((disassemble terse 7 2 [0x90]).run { store := terseStore }).1 =
      .ok ⟨[⟨0, "nop", ""⟩], 0⟩ := by with_unfolding_all rfl
  refine ⟨hdecoded, ?_⟩
  obtain ⟨⟨transcript, hcalls, hanswers⟩, _⟩ := disassemble_follows (Prod.ext hdecoded rfl)
  refine ⟨transcript, hanswers, ?_⟩
  rw [← hcalls]
  with_unfolding_all rfl

end Session

end DecoderHost

import DecoderHost.Proofs.Session.Scratch
import DecoderHost.Proofs.StandIn.Step
import DecoderHost.Session.Open

/-!
# Calls of the stand-in

What each call of the host comes to when the guest is the stand-in: the answer, and the change of the store.
-/

namespace DecoderHost

namespace StandIn

variable {α : Type}

open GuestAction

/-! ## Functions with one result -/

theorem run_one {code : Code UInt32} {s t : Store Globals} {n : UInt32}
    (h : run code s = (.ok n, t)) : run (one code) s = (.ok [.i32 n], t) := by
  rw [one, run_bind_of_ok h, run_pure]

theorem run_one_trap {code : Code UInt32} {s t : Store Globals} {trap : Trap}
    (h : run code s = (.error trap, t)) : run (one code) s = (.error trap, t) := by
  rw [one, run_bind, h]

/-- The store once the heap has given out a block. -/
def taken (s : Store Globals) (size : UInt32) : Store Globals :=
  { s with globals := { s.globals with
      heap := (s.globals.heap + size + 7) &&& 0xFFFFFFF8, live := s.globals.live + 1 } }

/-- The store once a block has been given back. -/
def givenBack (s : Store Globals) : Store Globals :=
  { s with globals := { s.globals with
      live := s.globals.live - 1, heap := if s.globals.live - 1 = 0 then 4096 else s.globals.heap } }

section

variable (s : Store Globals) (size : UInt32)

@[simp] theorem live_taken : (taken s size).globals.live = s.globals.live + 1 := rfl

@[simp] theorem syntaxValue_taken : (taken s size).globals.syntaxValue = s.globals.syntaxValue := rfl

@[simp] theorem live_givenBack : (givenBack s).globals.live = s.globals.live - 1 := rfl

@[simp] theorem syntaxValue_givenBack : (givenBack s).globals.syntaxValue = s.globals.syntaxValue := rfl

theorem heap_givenBack : (givenBack s).globals.heap =
    if s.globals.live - 1 = 0 then 4096 else s.globals.heap := rfl

end

theorem run_malloc_code (size : UInt32) (s : Store Globals) :
    run (malloc size) s = (.ok s.globals.heap, taken s size) := rfl

theorem run_free_code {block : UInt32} (h : block ≠ 0) (s : Store Globals) :
    run (do free block; return []) s = (.ok ([] : List Value), givenBack s) := by
  unfold free
  rw [if_pos h]
  rfl

/-! ## The host's calls -/

/-- A number that fits a word of 32 bits, as the host hands it over. -/
theorem ofNat_toUInt64 {n : Nat} (h : n < 4294967296) : UInt64.ofNat n = (UInt32.ofNat n).toUInt64 := by
  apply UInt64.toNat_inj.mp
  rw [UInt32.toNat_toUInt64, UInt32.toNat_ofNat_of_lt' h, UInt64.toNat_ofNat_of_lt']
  exact Nat.lt_trans h (by decide)

theorem run_malloc {size : Nat} (hsize : size < 4294967296) (s : Scene Globals) :
    (guest.malloc size).run s =
      (.ok s.store.globals.heap, { s with store := taken s.store (UInt32.ofNat size) }) := by
  have hinvoke : (guest.invoke "malloc" [.i32 (UInt32.ofNat size)]).run s.store =
      (.ok [.i32 s.store.globals.heap], taken s.store (UInt32.ofNat size)) := run_one (run_malloc_code _ _)
  have hcall : (guest.call "malloc" [(UInt32.ofNat size).toUInt64]).run s =
      (.ok s.store.globals.heap.toUInt64, { s with store := taken s.store (UInt32.ofNat size) }) :=
    Guest.run_call_words [_] rfl hinvoke rfl
  unfold Guest.malloc
  rw [Host.run_bind_of_ok (Guest.run_resolve_of_hasFunction rfl s), ofNat_toUInt64 hsize,
    Host.run_bind_of_ok hcall, Host.run_pure, UInt32.toUInt32_toUInt64]

/-- A function whose one result is taken for an address. -/
theorem run_call_pointer {name : String} (words : List UInt32) {results : List ValueType}
    (h : guest.function? name = some ⟨List.replicate words.length .i32, results⟩) {s : Scene Globals}
    {t : Store Globals} {n : UInt32}
    (hinvoke : (guest.invoke name (words.map Value.i32)).run s.store = (.ok [.i32 n], t)) :
    Host.run (do return (← guest.call name (words.map UInt32.toUInt64)).toUInt32) s =
      (.ok n, { s with store := t }) := by
  rw [Host.run_bind_of_ok (Guest.run_call_words words h hinvoke rfl), Host.run_pure,
    UInt32.toUInt32_toUInt64]

theorem run_csMalloc (handle : UInt32) (s : Scene Globals) :
    (guest.csMalloc handle).run s = (.ok s.store.globals.heap, { s with store := taken s.store 64 }) := by
  unfold Guest.csMalloc
  rw [Host.run_bind_of_ok (Guest.run_resolve_of_hasFunction rfl s)]
  exact run_call_pointer [handle] rfl (run_one (run_malloc_code 64 s.store))

theorem run_csMnemonic (record : UInt32) (s : Scene Globals) :
    (guest.csMnemonic record).run s = (.ok record, s) :=
  run_call_pointer [record] rfl rfl

theorem run_csOperands (record : UInt32) (s : Scene Globals) :
    (guest.csOperands record).run s = (.ok (record + 32), s) :=
  run_call_pointer [record] rfl rfl

theorem run_tryCall_free {address : UInt32} (h : address ≠ 0) (s : Scene Globals) :
    (guest.tryCall "free" [address.toUInt64]).run s =
      (.ok (.ok 0), { s with store := givenBack s.store }) := by
  have hinvoke : (guest.invoke "free" [.i32 address]).run s.store = (.ok [], givenBack s.store) :=
    run_free_code h s.store
  exact Guest.run_tryCall_words [address] rfl hinvoke rfl

theorem run_release_block {address : UInt32} (h : address ≠ 0) (s : Scene Globals) :
    (Session.release guest (.block address)).run s = (.ok (), { s with store := givenBack s.store }) := by
  rw [Session.run_release, Allocation.releaseFunction, Allocation.releaseArguments, run_tryCall_free h]

theorem run_release_record {address : UInt32} (h : address ≠ 0) (s : Scene Globals) :
    (Session.release guest (.record address)).run s = (.ok (), { s with store := givenBack s.store }) := by
  have hinvoke : (guest.invoke "cs_free" [.i32 address, .i32 1]).run s.store = (.ok [], givenBack s.store) :=
    run_free_code h s.store
  have htry : (guest.tryCall "cs_free" [address.toUInt64, 1]).run s =
      (.ok (.ok 0), { s with store := givenBack s.store }) :=
    Guest.run_tryCall_words [address, 1] rfl hinvoke rfl
  rw [Session.run_release, Allocation.releaseFunction, Allocation.releaseArguments, htry]

/-! ## Scratch memory -/

/-- What using an allocation of the stand-in's comes to, by how the use ended: the allocation is given back,
unless the rounds ran out. -/
def settle (outcome : Except Stop α × Scene Globals) : Except Stop α × Scene Globals :=
  match outcome with
  | (.error .stepsExhausted, t) => (.error .stepsExhausted, t)
  | (outcome, t) => (outcome, { t with store := givenBack t.store })

theorem run_withAllocation {a : Allocation}
    (hrelease : ∀ s, (Session.release guest a).run s = (.ok (), { s with store := givenBack s.store }))
    (body : Host Globals α) (s : Scene Globals) :
    (Session.withAllocation guest a body).run s = settle (body.run s) := by
  rw [Session.withAllocation, Host.run_ensuring]
  rcases body.run s with ⟨(p | _) | a, t⟩
  · simp only [hrelease, settle]
  · rfl
  · simp only [hrelease, settle]

theorem run_withBlock {size : Nat} (hsize : size < 4294967296) {s : Scene Globals}
    (hheap : s.store.globals.heap ≠ 0) (body : UInt32 → Host Globals α) :
    (Session.withBlock guest size body).run s =
      settle ((body s.store.globals.heap).run { s with store := taken s.store (UInt32.ofNat size) }) := by
  unfold Session.withBlock
  rw [Host.run_bind_of_ok (run_malloc hsize s), if_neg (fun h => hheap h.1)]
  exact run_withAllocation (run_release_block hheap) _ _

theorem run_withRecord {s : Scene Globals} (hheap : s.store.globals.heap ≠ 0) (handle : UInt32)
    (body : UInt32 → Host Globals α) :
    (Session.withRecord guest handle body).run s =
      settle ((body s.store.globals.heap).run { s with store := taken s.store 64 }) := by
  unfold Session.withRecord
  rw [Host.run_bind_of_ok (run_csMalloc handle s), if_neg hheap]
  exact run_withAllocation (run_release_record hheap) _ _

/-! ## Decoding one instruction -/

section

variable {handle codeSlot sizeSlot offsetSlot record : UInt32} {s : Scene Globals} {t : Store Globals}

theorem run_attempt_of_ok {n : UInt32}
    (h : run (csDisasmIter handle codeSlot sizeSlot offsetSlot record) s.store = (.ok n, t)) :
    (guest.csDisasmIter handle codeSlot sizeSlot offsetSlot record).run s =
      (.ok (n.toUInt64 != 0), { s with store := t }) := by
  have hcall : (guest.call "cs_disasm_iter" [handle.toUInt64, codeSlot.toUInt64, sizeSlot.toUInt64,
      offsetSlot.toUInt64, record.toUInt64]).run s = (.ok n.toUInt64, { s with store := t }) :=
    Guest.run_call_words [handle, codeSlot, sizeSlot, offsetSlot, record] rfl (run_one h) rfl
  unfold Guest.csDisasmIter
  rw [Host.run_bind_of_ok hcall, Host.run_pure]

theorem run_attempt_of_trap {trap : Trap}
    (h : run (csDisasmIter handle codeSlot sizeSlot offsetSlot record) s.store = (.error trap, t)) :
    (guest.csDisasmIter handle codeSlot sizeSlot offsetSlot record).run s =
      (.error (.panic (.callFailed (Guest.trapError "cs_disasm_iter" trap))), { s with store := t }) := by
  have hcall : (guest.call "cs_disasm_iter" [handle.toUInt64, codeSlot.toUInt64, sizeSlot.toUInt64,
      offsetSlot.toUInt64, record.toUInt64]).run s =
      (.error (.panic (.callFailed (Guest.trapError "cs_disasm_iter" trap))), { s with store := t }) :=
    Guest.run_call_words_trap [handle, codeSlot, sizeSlot, offsetSlot, record] rfl (run_one_trap h)
  unfold Guest.csDisasmIter
  rw [Host.run_bind_of_error hcall]

end

/-- What an attempt to decode an instruction comes to, as the encoding has it. -/
def attempted (dialect : Dialect) (offset : Nat) (code : List UInt8) (s : Scene Globals) :
    Except Stop Bool × Scene Globals :=
  match front dialect code with
  | .nothing => (.ok false, s)
  | .trap => (.error (.panic (.callFailed (Guest.trapError "cs_disasm_iter" .unreachable))), s)
  | .instruction length mnemonic operands =>
    let memory := advanced s.store.memory mnemonic operands (offset + length) (code.length - length)
    (.ok true, { s with store.memory := memory })

theorem run_attempt (handle : UInt32) {s : Scene Globals} {offset : Nat} {code : List UInt8}
    (h : Poised s.store.memory offset code) (hflavour : s.store.globals.syntaxValue = 8) :
    (guest.csDisasmIter handle 4160 4164 4168 recordAt).run s =
      attempted (dialectOf handle) offset code s := by
  have hstep := run_csDisasmIter handle h hflavour
  unfold attempted
  cases hfront : front (dialectOf handle) code with
  | nothing =>
    rw [hfront] at hstep
    exact run_attempt_of_ok hstep
  | trap =>
    rw [hfront] at hstep
    exact run_attempt_of_trap hstep
  | instruction length mnemonic operands =>
    rw [hfront] at hstep
    exact run_attempt_of_ok hstep

end StandIn

end DecoderHost

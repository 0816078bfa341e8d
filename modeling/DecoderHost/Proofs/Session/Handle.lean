import DecoderHost.Disassembler
import DecoderHost.Proofs.Session.Scratch

/-!
# A session keeps its handle

A disassembler keeps the handle it was opened with, whatever it decodes and however the decodes end, and hands
that handle to the guest in every call that asks for one.

`Host.Calls` is the means: every call that a computation makes is of some kind. It is closed under the operations
of which a decode is made, so that only the requests themselves are left to look at.
-/

namespace DecoderHost

variable {σ α β : Type}

/-- A call of a function that takes a handle is given this one. -/
def Call.Names (handle : UInt32) (c : Call) : Prop :=
  c.request.1 = "cs_malloc" ∨ c.request.1 = "cs_disasm_iter" → c.request.2.head? = some handle.toUInt64

/-- Every call that a computation makes is of a kind. -/
def Host.Calls (P : Call → Prop) (m : Host (σ × List Call) α) : Prop :=
  ∀ s, ∃ work, (m.run s).2.calls = s.calls ++ work ∧ ∀ c ∈ work, P c

namespace Host.Calls

variable {P : Call → Prop}

/-- A computation that makes no call. -/
theorem of_none {m : Host (σ × List Call) α} (h : ∀ s, (m.run s).2.calls = s.calls) : Calls P m :=
  fun s => ⟨[], by simp [h s], by simp⟩

theorem pure (a : α) : Calls P (pure a : Host (σ × List Call) α) := of_none fun _ => rfl

theorem throw (stop : Stop) : Calls P (throw stop : Host (σ × List Call) α) := of_none fun _ => rfl

theorem panic (p : Panic) : Calls P (panic p : Host (σ × List Call) α) := of_none fun _ => rfl

theorem record (e : Event) : Calls P (record e : Host (σ × List Call) Unit) := of_none fun _ => rfl

theorem inspect (datum : GuestDatum) (look : Memory → Except OutOfBounds α) :
    Calls P (inspect datum look : Host (σ × List Call) α) := by
  refine of_none fun s => ?_
  rw [run_inspect]
  cases look s.store.memory <;> rfl

theorem alter (datum : GuestDatum) (change : Memory → Except OutOfBounds Unit × Memory) :
    Calls P (alter datum change : Host (σ × List Call) Unit) := by
  refine of_none fun s => ?_
  rw [run_alter]
  cases (change s.store.memory).1 <;> rfl

theorem bind {m : Host (σ × List Call) α} {f : α → Host (σ × List Call) β} (hm : Calls P m)
    (hf : ∀ a, Calls P (f a)) : Calls P (m >>= f) := by
  intro s
  obtain ⟨work, hcalls, hwork⟩ := hm s
  rw [run_bind]
  rcases hrun : m.run s with ⟨stop | a, t⟩
  · rw [hrun] at hcalls
    exact ⟨work, hcalls, hwork⟩
  · rw [hrun] at hcalls
    obtain ⟨rest, hcalls', hrest⟩ := hf a t
    exact ⟨work ++ rest, by rw [hcalls', hcalls, List.append_assoc], List.forall_mem_append.mpr ⟨hwork, hrest⟩⟩

theorem ensuring {body : Host (σ × List Call) α} {finish : Host (σ × List Call) Unit} (hbody : Calls P body)
    (hfinish : Calls P finish) : Calls P (ensuring body finish) := by
  intro s
  obtain ⟨work, hcalls, hwork⟩ := hbody s
  rw [run_ensuring]
  rcases hrun : body.run s with ⟨outcome, t⟩
  rw [hrun] at hcalls
  obtain ⟨rest, hcalls', hrest⟩ := hfinish t
  -- Unless the steps are used up, `finish` comes after the body, however the body ended.
  have hboth : ∃ work, (finish.run t).2.calls = s.calls ++ work ∧ ∀ c ∈ work, P c :=
    ⟨work ++ rest, by rw [hcalls', hcalls, List.append_assoc], List.forall_mem_append.mpr ⟨hwork, hrest⟩⟩
  rcases outcome with (p | _) | a
  · dsimp only
    rcases hend : finish.run t with ⟨_ | ⟨⟩, u⟩ <;> rw [hend] at hboth <;> exact hboth
  · exact ⟨work, hcalls, hwork⟩
  · dsimp only
    rcases hend : finish.run t with ⟨_ | ⟨⟩, u⟩ <;> rw [hend] at hboth <;> exact hboth

variable {g : Guest σ} {name : String} {arguments : List UInt64}

theorem tryCall (hsmall : ∀ a ∈ arguments, a.toNat < 4294967296)
    (h : ∀ c : Call, c.request = (name, arguments) → P c) : Calls P (g.recorded.tryCall name arguments) := by
  intro s
  cases hprepare : g.prepare name arguments with
  | error p =>
    rw [Guest.run_tryCall_unprepared (g := g.recorded) hprepare]
    exact ⟨[], by simp, by simp⟩
  | ok values =>
    obtain ⟨c, t, hmade, hname, harguments, hrun⟩ := Guest.run_tryCall_recorded hprepare s
    rw [hrun]
    refine ⟨[c], hmade.calls, List.forall_mem_singleton.mpr (h c ?_)⟩
    rw [Call.request, hname, harguments, Guest.numbers_of_prepare hprepare hsmall]

theorem call (hsmall : ∀ a ∈ arguments, a.toNat < 4294967296)
    (h : ∀ c : Call, c.request = (name, arguments) → P c) : Calls P (g.recorded.call name arguments) := by
  refine (tryCall hsmall h).bind fun answer => ?_
  cases answer with
  | ok number => exact pure number
  | error e => exact panic _

theorem resolve : Calls P (g.recorded.resolve name) := by
  unfold Guest.resolve
  split
  · exact pure ()
  · exact panic _

end Host.Calls

/-! ## The calls of a decode -/

theorem Call.names_of_request {c : Call} {handle : UInt32} {name : String} {arguments : List UInt64}
    (h : c.request = (name, arguments))
    (hname : name ∉ ["cs_malloc", "cs_disasm_iter"] ∨ arguments.head? = some handle.toUInt64) :
    c.Names handle := by
  intro hasks
  rw [h] at hasks ⊢
  exact hname.resolve_left fun hother => hother (by simpa using hasks)

namespace Host.Calls

variable (g : Guest σ) (handle : UInt32)

theorem release (allocation : Allocation) :
    Calls (Call.Names handle) (Session.release g.recorded allocation) := by
  intro s
  have htry : Calls (Call.Names handle)
      (g.recorded.tryCall allocation.releaseFunction allocation.releaseArguments) := by
    refine tryCall allocation.releaseArguments_lt fun c hrequest => Call.names_of_request hrequest (.inl ?_)
    cases allocation <;> simp [Allocation.releaseFunction]
  obtain ⟨work, hcalls, hwork⟩ := htry s
  rw [Session.run_release]
  refine ⟨work, ?_, hwork⟩
  rcases hrun : (g.recorded.tryCall allocation.releaseFunction allocation.releaseArguments).run s with
    ⟨stop | (e | _), t⟩ <;> rw [hrun] at hcalls <;> exact hcalls

theorem withBlock {size : Nat} (hsize : size < 4294967296) {body : UInt32 → Host (σ × List Call) α}
    (hbody : ∀ address, Calls (Call.Names handle) (body address)) :
    Calls (Call.Names handle) (Session.withBlock g.recorded size body) := by
  refine (resolve.bind fun _ => (call (Guest.size_lt hsize) fun c hrequest =>
    Call.names_of_request hrequest (.inl (by decide))).bind fun _ => pure _).bind fun address => ?_
  have held := (hbody address).ensuring (release g handle (.block address))
  dsimp only
  split
  · exact (panic _).bind fun _ => held
  · exact held

theorem withRecord {body : UInt32 → Host (σ × List Call) α}
    (hbody : ∀ address, Calls (Call.Names handle) (body address)) :
    Calls (Call.Names handle) (Session.withRecord g.recorded handle body) := by
  refine (resolve.bind fun _ => (call (Guest.words_lt [handle]) fun c hrequest =>
    Call.names_of_request hrequest (.inr rfl)).bind fun _ => pure _).bind fun address => ?_
  have held := (hbody address).ensuring (release g handle (.record address))
  dsimp only
  split
  · exact (panic _).bind fun _ => held
  · exact held

theorem decodeAll (cursor : Session.Cursor) (record : UInt32) (steps : Nat) (decoded : Array Instruction) :
    Calls (Call.Names handle) (Session.decodeAll g.recorded handle cursor record steps decoded) := by
  have hattempt := Guest.words_lt [handle, cursor.codeSlot, cursor.sizeSlot, cursor.offsetSlot, record]
  have hrecord := Guest.words_lt [record]
  induction steps generalizing decoded with
  | zero => exact throw _
  | succ steps ih =>
    refine (inspect _ _).bind fun offset => ?_
    refine ((call hattempt fun c hrequest =>
      Call.names_of_request hrequest (.inr rfl)).bind fun _ => pure _).bind fun more => ?_
    split
    · refine ((call hrecord fun c hrequest =>
        Call.names_of_request hrequest (.inl (by decide))).bind fun _ => pure _).bind fun mnemonicAt => ?_
      refine ((call hrecord fun c hrequest =>
        Call.names_of_request hrequest (.inl (by decide))).bind fun _ => pure _).bind fun operandsAt => ?_
      refine ((inspect _ _).bind fun _ => pure _).bind fun mnemonic => ?_
      refine ((inspect _ _).bind fun _ => pure _).bind fun operands => ?_
      exact ih _
    · exact pure _

theorem disassemble (steps : Nat) (code : List UInt8) :
    Calls (Call.Names handle) (Session.disassemble g.recorded handle steps code) := by
  unfold Session.disassemble
  split
  · exact panic _
  · rename_i hlength
    refine withRecord g handle fun record => withBlock g handle (by decide) fun block =>
      withBlock g handle (by omega) fun input => ?_
    unfold Session.decodeIn
    split
    · exact panic _
    · exact (alter _ _).bind fun _ => (decodeAll g handle _ _ _ _).bind fun _ =>
        (inspect _ _).bind fun _ => pure _

end Host.Calls

/-! ## The decodes of a disassembler -/

namespace Disassembler

/-- The handle of the engine, while the disassembler is open. -/
def handle? (x : Disassembler σ) : Option UInt32 := x.session.map Session.handle

/-- A disassembler after byte strings have been decoded, each within its number of rounds. -/
def after (d : Decoder σ) (x : Disassembler σ) (inputs : List (Nat × List UInt8)) : Disassembler σ :=
  inputs.foldl (fun x input => (x.disassemble d input.1 input.2).2) x

/-- The calls that a decode of this disassembler makes. -/
def callsOf (d : Decoder σ) (steps : Nat) (code : List UInt8) (x : Disassembler σ) : List Call :=
  match x.session with
  | none => []
  | some session => Session.callsOf d.guest session.handle steps code { store := session.store }

theorem handle?_disassemble (d : Decoder σ) (steps : Nat) (code : List UInt8) (x : Disassembler σ) :
    (x.disassemble d steps code).2.handle? = x.handle? := by
  obtain ⟨arch, mode, _ | ⟨store, handle⟩⟩ := x
  · rfl
  · rw [disassemble_opened]
    rfl

/-- Decoding does not change the handle. -/
theorem handle?_after (d : Decoder σ) (x : Disassembler σ) (inputs : List (Nat × List UInt8)) :
    (x.after d inputs).handle? = x.handle? := by
  induction inputs generalizing x with
  | nil => rfl
  | cons input inputs ih =>
    show ((x.disassemble d input.1 input.2).2.after d inputs).handle? = _
    rw [ih, handle?_disassemble]

/-- Whatever is decoded first, the disassembler still has the handle, and its next decode names it. -/
def KeepsHandle (d : Decoder σ) (handle : UInt32) (x : Disassembler σ) : Prop :=
  ∀ inputs, (x.after d inputs).handle? = some handle ∧
    ∀ steps code, ∀ c ∈ (x.after d inputs).callsOf d steps code, c.Names handle

/-- The calls of a decode name the engine of the disassembler. -/
theorem names_of_mem_callsOf {d : Decoder σ} {x : Disassembler σ} {handle : UInt32}
    (h : x.handle? = some handle) {steps : Nat} {code : List UInt8} {c : Call}
    (hc : c ∈ x.callsOf d steps code) : c.Names handle := by
  obtain ⟨arch, mode, _ | ⟨store, handle'⟩⟩ := x
  · simp [handle?] at h
  · simp only [handle?, Option.map_some, Option.some.injEq] at h
    subst h
    obtain ⟨work, hcalls, hwork⟩ :=
      Host.Calls.disassemble d.guest handle' steps code (Scene.recorded { store })
    have hmem : c ∈ [] ++ work := hcalls ▸ hc
    exact hwork c hmem

/-- **A disassembler keeps the handle it has.** -/
theorem keepsHandle (d : Decoder σ) {x : Disassembler σ} {handle : UInt32}
    (h : x.handle? = some handle) : x.KeepsHandle d handle := by
  intro inputs
  have hafter : (x.after d inputs).handle? = some handle := (handle?_after d x inputs).trans h
  exact ⟨hafter, fun steps code c hc => names_of_mem_callsOf hafter hc⟩

end Disassembler

end DecoderHost

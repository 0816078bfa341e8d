import DecoderHost.Proofs.Guest.Outcome
import DecoderHost.Proofs.Session.Handle
import DecoderHost.Proofs.Session.Protocol

/-!
# The protocol of opening

An engine is opened by three calls of the guest: a slot is taken, the engine is asked for, and the slot is given
back. If the engine was opened, a fourth call sets the flavour of syntax. What comes of it is decided by the status
that the engine reports and the handle it left in the slot; a slot that cannot be given back and an option that is
refused are each worth a warning and nothing else.

`open_eq_ok` says so of every opening that comes to its end.
-/

namespace DecoderHost

variable {σ τ : Type}

/-! ## What an opening does -/

/-- The status that a call reported. -/
def Call.status? (c : Call) : Option UInt32 := c.returned?.map UInt64.toUInt32

/-- The warning about a slot that was not given back. -/
def Call.slotWarning? (c : Call) : Option Event :=
  c.trap?.map fun trap => .slotNotFreed (Guest.trapError c.name trap)

/-- The warning about a refused flavour of syntax. -/
def Call.optionWarning? (c : Call) : Option Event :=
  c.status?.bind fun status =>
    if status = 0 then none else some (.optionRejected .syntaxFlavour .attSyntax (Status.ofCode status))

namespace Session

/-- The numbers with which an engine is asked for. -/
def openArguments (arch : Arch) (mode : Mode) (slot : UInt32) : List UInt64 :=
  [UInt64.ofNat arch.number, UInt64.ofNat mode.bits.toNat, slot.toUInt64]

/-- The numbers with which the AT&T flavour of syntax is set. -/
def syntaxArguments (handle : UInt32) : List UInt64 := [handle.toUInt64, 1, 8]

end Session

/-- The calls of an opening that came to its end, and the slot it used. -/
structure Opening where
  slot : UInt32
  takeSlot : Call
  ask : Call
  freeSlot : Call
  setOption? : Option Call

namespace Opening

/-- The calls in order. -/
def calls (o : Opening) : List Call := [o.takeSlot, o.ask, o.freeSlot] ++ o.setOption?.toList

/-- The warnings in order. -/
def warnings (o : Opening) : List Event :=
  o.freeSlot.slotWarning?.toList ++ (o.setOption?.bind Call.optionWarning?).toList

/-- **What the status decides.** The handle is in the slot as the engine left it; a refusing engine has no handle,
and is asked for no option. -/
inductive Settles (o : Opening) (arch : Arch) (mode : Mode) : Except OpenError UInt32 → Prop
  | opened {handle : UInt32} {option : Call} (hstatus : o.ask.status? = some 0)
    (hhandle : o.ask.after.readWord32 o.slot = .ok handle) (hoption : o.setOption? = some option)
    (hrequest : option.request = ("cs_option", Session.syntaxArguments handle)) :
    Settles o arch mode (.ok handle)
  | rejected {status : Status} (hstatus : o.ask.status? = some status.code) (hcode : status.code ≠ 0)
    (hfailed : status ≠ .ok) (hoption : o.setOption? = none) :
    Settles o arch mode (.error (.rejected arch mode status))

/-- **The calls of an opening that answered.** -/
structure Answers (o : Opening) (arch : Arch) (mode : Mode) (answer : Except OpenError UInt32) : Prop where
  takeSlot : o.takeSlot.request = ("malloc", [4]) ∧ o.takeSlot.pointer? = some o.slot ∧ o.slot ≠ 0
  ask : o.ask.request = ("cs_open", Session.openArguments arch mode o.slot)
  freeSlot : o.freeSlot.request = ("free", [o.slot.toUInt64])
  settles : o.Settles arch mode answer

theorem level_of_mem_warnings {o : Opening} {e : Event} (h : e ∈ o.warnings) : e.level = "WARN" := by
  simp only [warnings, List.mem_append, Option.mem_toList, Call.slotWarning?, Option.map_eq_some_iff,
    Option.bind_eq_some_iff, Call.optionWarning?] at h
  rcases h with ⟨trap, _, rfl⟩ | ⟨c, _, status, _, hwarning⟩
  · rfl
  · split at hwarning
    · simp at hwarning
    · rw [← Option.some.inj hwarning]
      rfl

end Opening

/-! ## The parts of an opening -/

namespace Session

/-- What is left to do once the engine has been opened: to take its handle, to give the slot back, and to set the
flavour of syntax. -/
def adopt (g : Guest σ) (slot : UInt32) : Host σ (Except OpenError UInt32) := do
  let handle ← readHandle slot
  freeSlot g slot
  setOption g handle .syntaxFlavour .attSyntax
  return .ok handle

/-- What is left to do once the engine has refused. -/
def giveUp (g : Guest σ) (arch : Arch) (mode : Mode) (slot status : UInt32) :
    Host σ (Except OpenError UInt32) := do
  freeSlot g slot
  return .error (.rejected arch mode (Status.ofCode status))

/-- What is left to do once there is a slot. -/
def openAt (g : Guest σ) (arch : Arch) (mode : Mode) (slot : UInt32) :
    Host σ (Except OpenError UInt32) := do
  let status ← g.csOpen arch mode slot
  if status = 0 then adopt g slot else giveUp g arch mode slot status

theorem open_eq (g : Guest σ) (arch : Arch) (mode : Mode) :
    Session.open g arch mode = (do
      let slot ← g.malloc 4
      if slot = 0 then
        Host.panic .noHandleSlot
      openAt g arch mode slot) := rfl

theorem run_freeSlot (g : Guest σ) (slot : UInt32) (s : Scene σ) :
    (freeSlot g slot).run s = match (g.tryCall "free" [slot.toUInt64]).run s with
      | (.ok (.ok _), t) => (.ok (), t)
      | (.ok (.error e), t) => (Host.record (.slotNotFreed e)).run t
      | (.error stop, t) => (.error stop, t) := by
  show ((g.tryCall "free" [slot.toUInt64] >>= _) >>= _).run s = _
  rw [Host.run_bind, Host.run_bind]
  rcases (g.tryCall "free" [slot.toUInt64]).run s with ⟨stop | (e | _), t⟩ <;> rfl

theorem run_readHandle (slot : UInt32) (s : Scene σ) :
    (readHandle slot).run s = match s.store.memory.readWord32 slot with
      | .ok handle => (.ok handle, s)
      | .error e => (.error (.panic (.handleSlot e)), s) := by
  rw [readHandle, Host.run_bind, Host.run_memory]
  dsimp only
  cases s.store.memory.readWord32 slot <;> rfl

end Session

namespace Guest.Mirrors

variable {view : τ → σ} {g' : Guest τ} {g : Guest σ}

theorem freeSlot (h : Mirrors view g' g) (slot : UInt32) :
    Host.Mirrors view (Session.freeSlot g' slot) (Session.freeSlot g slot) := by
  refine ((h.tryCall _ _).bind fun _ => .pure _).bind fun answer => ?_
  cases answer with
  | ok _ => exact .pure ()
  | error e => exact .record _

theorem setOption (h : Mirrors view g' g) (handle : UInt32) (option : EngineOption) (value : OptionValue) :
    Host.Mirrors view (Session.setOption g' handle option value)
      (Session.setOption g handle option value) := by
  refine ((h.call _ _).bind fun _ => .pure _).bind fun status => ?_
  split
  · exact .record _
  · exact .pure ()

theorem readHandle (slot : UInt32) :
    Host.Mirrors view (Session.readHandle slot : Host τ UInt32) (Session.readHandle slot) := by
  intro s
  rw [Session.run_readHandle, Session.run_readHandle,
    show (s.map view).store.memory = s.store.memory from rfl]
  cases s.store.memory.readWord32 slot <;> rfl

theorem openAt (h : Mirrors view g' g) (arch : Arch) (mode : Mode) (slot : UInt32) :
    Host.Mirrors view (Session.openAt g' arch mode slot) (Session.openAt g arch mode slot) := by
  refine ((h.call _ _).bind fun _ => .pure _).bind fun status => ?_
  split
  · exact (readHandle slot).bind fun handle => (h.freeSlot slot).bind fun _ =>
      (h.setOption handle _ _).bind fun _ => .pure _
  · exact (h.freeSlot slot).bind fun _ => .pure _

/-- An opening cannot tell mirroring guests apart. -/
theorem «open» (h : Mirrors view g' g) (arch : Arch) (mode : Mode) :
    Host.Mirrors view (Session.open g' arch mode) (Session.open g arch mode) := by
  rw [Session.open_eq, Session.open_eq]
  refine ((h.resolve _).bind fun _ => (h.call _ _).bind fun _ => .pure _).bind fun slot => ?_
  dsimp only
  split
  · exact (Host.Mirrors.panic _).bind fun _ => h.openAt arch mode slot
  · exact h.openAt arch mode slot

end Guest.Mirrors

/-! ## Finished openings -/

namespace Call

variable {c : Call}

theorem slotWarning?_of_number {number : UInt64} (h : c.answer = .ok (.ok number)) :
    c.slotWarning? = none := by
  unfold answer at h
  unfold slotWarning? trap?
  cases houtcome : c.outcome with
  | error trap => simp [houtcome] at h
  | ok results => rfl

theorem slotWarning?_of_error {e : HostError} (h : c.answer = .ok (.error e)) :
    c.slotWarning? = some (.slotNotFreed e) := by
  unfold answer at h
  unfold slotWarning? trap?
  cases houtcome : c.outcome with
  | error trap =>
    simp only [houtcome, Except.ok.injEq, Except.error.injEq] at h
    simp [h]
  | ok results =>
    simp only [houtcome] at h
    split at h <;> simp at h

end Call

namespace Session

variable {g : Guest σ} {arch : Arch} {mode : Mode} {slot : UInt32} {s t : Scene (σ × List Call)}
  {answer : Except OpenError UInt32}

theorem openArguments_lt (arch : Arch) (mode : Mode) (slot : UInt32) :
    ∀ a ∈ openArguments arch mode slot, a.toNat < 4294967296 := by
  have harch : arch.number < 4294967296 := by
    cases arch <;> decide
  intro a ha
  simp only [openArguments, List.mem_cons, List.not_mem_nil, or_false] at ha
  rcases ha with rfl | rfl | rfl
  · rw [UInt64.toNat_ofNat']
    omega
  · have hmode : mode.bits.toNat < 4294967296 := mode.bits.isLt
    rw [UInt64.toNat_ofNat']
    omega
  · rw [UInt32.toNat_toUInt64]
    exact slot.toNat_lt

theorem freeSlot_recorded_eq_ok (h : (freeSlot g.recorded slot).run s = (.ok (), t)) :
    ∃ c : Call, t.calls = s.calls ++ [c] ∧ c.request = ("free", [slot.toUInt64]) ∧
      t.events.toList = s.events.toList ++ c.slotWarning?.toList := by
  rw [run_freeSlot] at h
  rcases htry : (g.recorded.tryCall "free" [slot.toUInt64]).run s with ⟨stop | reply, u⟩
  · simp [htry] at h
  · obtain ⟨c, hmade, hrequest, hanswer⟩ := Guest.tryCall_recorded_eq_ok (Guest.words_lt [slot]) htry
    rw [htry] at h
    cases reply with
    | ok number =>
      simp only [Prod.mk.injEq, true_and] at h
      subst h
      exact ⟨c, hmade.calls, hrequest, by simp [Call.slotWarning?_of_number hanswer, hmade.events]⟩
    | error e =>
      simp only [Host.run_record, Prod.mk.injEq, true_and] at h
      subst h
      exact ⟨c, hmade.calls, hrequest, by simp [Call.slotWarning?_of_error hanswer, hmade.events]⟩

theorem setOption_recorded_eq_ok {handle : UInt32}
    (h : (setOption g.recorded handle .syntaxFlavour .attSyntax).run s = (.ok (), t)) :
    ∃ c : Call, t.calls = s.calls ++ [c] ∧ c.request = ("cs_option", syntaxArguments handle) ∧
      t.events.toList = s.events.toList ++ c.optionWarning?.toList := by
  obtain ⟨status, u, hoption, hrest⟩ := Host.bind_eq_ok.mp h
  obtain ⟨c, hmade, hrequest, hstatus⟩ := Guest.call_pointer_eq_ok (Guest.words_lt [handle, 1, 8]) hoption
  have hwarning : c.optionWarning? = if status = 0 then none else
      some (.optionRejected .syntaxFlavour .attSyntax (Status.ofCode status)) := by
    rw [Call.optionWarning?, show c.status? = some status from hstatus, Option.bind_some]
  by_cases hzero : status = 0
  · rw [if_neg (not_not_intro hzero), Host.run_pure, Prod.mk.injEq] at hrest
    obtain ⟨-, rfl⟩ := hrest
    exact ⟨c, hmade.calls, hrequest, by simp [hwarning, hzero, hmade.events]⟩
  · rw [if_pos hzero, Host.run_record, Prod.mk.injEq] at hrest
    obtain ⟨-, rfl⟩ := hrest
    exact ⟨c, hmade.calls, hrequest, by simp [hwarning, hzero, hmade.events]⟩

theorem readHandle_eq_ok {s t : Scene σ} {handle : UInt32} (h : (readHandle slot).run s = (.ok handle, t)) :
    s.store.memory.readWord32 slot = .ok handle ∧ t = s := by
  rw [run_readHandle] at h
  cases hread : s.store.memory.readWord32 slot with
  | error e => simp [hread] at h
  | ok found =>
    simp only [hread, Prod.mk.injEq, Except.ok.injEq] at h
    exact ⟨by rw [h.1], h.2.symm⟩

/-- Once the engine is open, the handle is taken from the slot before the slot is given back. -/
theorem adopt_recorded_eq_ok (h : (adopt g.recorded slot).run s = (.ok answer, t)) :
    ∃ (handle : UInt32) (free option : Call), s.store.memory.readWord32 slot = .ok handle ∧ answer = .ok handle ∧
      free.request = ("free", [slot.toUInt64]) ∧ option.request = ("cs_option", syntaxArguments handle) ∧
      t.calls = s.calls ++ [free, option] ∧
      t.events.toList = s.events.toList ++ (free.slotWarning?.toList ++ option.optionWarning?.toList) := by
  obtain ⟨handle, _, hread, hfreeing⟩ := Host.bind_eq_ok.mp h
  obtain ⟨⟨⟩, u, hfree, hsetting⟩ := Host.bind_eq_ok.mp hfreeing
  obtain ⟨⟨⟩, v, hset, hanswer⟩ := Host.bind_eq_ok.mp hsetting
  obtain ⟨hhandle, rfl⟩ := readHandle_eq_ok hread
  obtain ⟨free, hcalls, hfreed, hevents⟩ := freeSlot_recorded_eq_ok hfree
  obtain ⟨option, hcalls', hoption, hevents'⟩ := setOption_recorded_eq_ok hset
  simp only [Host.run_pure, Prod.mk.injEq, Except.ok.injEq] at hanswer
  obtain ⟨rfl, rfl⟩ := hanswer
  exact ⟨handle, free, option, hhandle, rfl, hfreed, hoption, by simp [hcalls', hcalls],
    by rw [hevents', hevents, List.append_assoc]⟩

/-- Once the engine has refused, all that is left is to give the slot back. -/
theorem giveUp_recorded_eq_ok {status : UInt32}
    (h : (giveUp g.recorded arch mode slot status).run s = (.ok answer, t)) :
    ∃ free : Call, answer = .error (.rejected arch mode (Status.ofCode status)) ∧
      free.request = ("free", [slot.toUInt64]) ∧ t.calls = s.calls ++ [free] ∧
      t.events.toList = s.events.toList ++ free.slotWarning?.toList := by
  obtain ⟨⟨⟩, u, hfree, hanswer⟩ := Host.bind_eq_ok.mp h
  obtain ⟨free, hcalls, hfreed, hevents⟩ := freeSlot_recorded_eq_ok hfree
  simp only [Host.run_pure, Prod.mk.injEq, Except.ok.injEq] at hanswer
  obtain ⟨rfl, rfl⟩ := hanswer
  exact ⟨free, rfl, hfreed, hcalls, hevents⟩

/-- A finished opening of a recorded guest is an `Opening`, and its events are the warnings of that. -/
theorem open_recorded_eq_ok (h : (Session.open g.recorded arch mode).run s = (.ok answer, t)) :
    ∃ o : Opening, t.calls = s.calls ++ o.calls ∧ o.Answers arch mode answer ∧
      t.events.toList = s.events.toList ++ o.warnings := by
  rw [open_eq] at h
  obtain ⟨slot, u, hmalloc, h⟩ := Host.bind_eq_ok.mp h
  obtain ⟨takeSlot, hmade, htake, htaken⟩ := Guest.malloc_recorded_eq_ok (by decide) hmalloc
  split at h
  · obtain ⟨_, _, hpanic, _⟩ := Host.bind_eq_ok.mp h
    simp at hpanic
  · rename_i hslot
    obtain ⟨status, v, hask, h⟩ := Host.bind_eq_ok.mp h
    obtain ⟨ask, hmade', hasked, hstatus⟩ := Guest.call_pointer_eq_ok (openArguments_lt arch mode slot) hask
    split at h
    · rename_i hzero
      obtain ⟨handle, free, option, hhandle, rfl, hfreed, hoption, hcalls, hevents⟩ := adopt_recorded_eq_ok h
      rw [← hmade'.after] at hhandle
      refine ⟨⟨slot, takeSlot, ask, free, some option⟩, ?_,
        ⟨⟨htake, htaken, hslot⟩, hasked, hfreed, .opened (hzero ▸ hstatus) hhandle rfl hoption⟩, ?_⟩
      · simp [hcalls, hmade'.calls, hmade.calls, Opening.calls]
      · simp [hevents, hmade'.events, hmade.events, Opening.warnings]
    · rename_i hrefused
      obtain ⟨free, rfl, hfreed, hcalls, hevents⟩ := giveUp_recorded_eq_ok h
      have hcode : (Status.ofCode status).code = status := Status.code_ofCode status
      refine ⟨⟨slot, takeSlot, ask, free, none⟩, ?_,
        ⟨⟨htake, htaken, hslot⟩, hasked, hfreed, .rejected ?_ ?_ ?_ rfl⟩, ?_⟩
      · simp [hcalls, hmade'.calls, hmade.calls, Opening.calls]
      · rwa [hcode]
      · rwa [hcode]
      · exact fun hok => hrefused (Status.ofCode_eq_ok_iff.mp hok)
      · simp [hevents, hmade'.events, hmade.events, Opening.warnings]

/-- The calls that an opening makes, in order. -/
def openingCalls (g : Guest σ) (arch : Arch) (mode : Mode) (s : Scene σ) : List Call :=
  ((Session.open g.recorded arch mode).run s.recorded).2.calls

/-- An opening that came to its end, by its calls and its warnings. -/
theorem open_eq_ok {g : Guest σ} {s t : Scene σ} (h : (Session.open g arch mode).run s = (.ok answer, t)) :
    ∃ o : Opening, openingCalls g arch mode s = o.calls ∧ o.Answers arch mode answer ∧
      t.events.toList = s.events.toList ++ o.warnings := by
  have hmirror := g.recorded_mirrors.open arch mode s.recorded
  rcases hrecorded : (Session.open g.recorded arch mode).run s.recorded with ⟨outcome, u⟩
  rw [hrecorded, show s.recorded.map Prod.fst = s from rfl, h] at hmirror
  simp only [Prod.map_apply, id_eq, Prod.mk.injEq] at hmirror
  obtain ⟨rfl, rfl⟩ := hmirror
  obtain ⟨o, hcalls, hanswers, hevents⟩ := open_recorded_eq_ok hrecorded
  exact ⟨o, by rw [openingCalls, hrecorded]; exact hcalls, hanswers, hevents⟩

end Session

end DecoderHost

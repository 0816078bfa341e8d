import DecoderHost.Proofs.Session.Opening

/-!
# How an opening ends

An opening answers unless something it comes to is wrong. `Reaches` tells which calls it comes to: each is reached
through the ones before it, and only if nothing was wrong with those. `OpeningBreaks` lists what can be wrong, and an
opening panics exactly then.

Two calls differ from the others. The function that frees the slot is looked up before any call is made, so that its
absence is noticed first; and a trap in it does no harm.
-/

namespace DecoderHost

variable {σ : Type}

namespace Guest

/-- A call is made, and may trap. -/
def Tries (g : Guest σ) (name : String) (arguments : List UInt64) (s t : Store σ) : Prop :=
  (∃ number, g.Gives name arguments s number t) ∨ ∃ trap, g.Traps name arguments s trap t

end Guest

namespace Session

section

variable (g : Guest σ) (arch : Arch) (mode : Mode) (s : Store σ)

/-- The slot has been taken. -/
structure SlotTaken (slot : UInt32) (t : Store σ) : Prop where
  hasFree : g.hasFunction "free"
  gives : g.GivesWord "malloc" [4] s slot t
  ne_zero : slot ≠ 0

/-- The engine has been asked for, and has reported a status. -/
def Asked (slot status : UInt32) (u : Store σ) : Prop :=
  ∃ t, SlotTaken g s slot t ∧ g.GivesWord "cs_open" (openArguments arch mode slot) t status u

/-- An opening comes to a call. -/
inductive Reaches : String → List UInt64 → Store σ → Prop
  | malloc (hfree : g.hasFunction "free") : Reaches "malloc" [4] s
  | csOpen {slot : UInt32} {t : Store σ} (htaken : SlotTaken g s slot t) :
    Reaches "cs_open" (openArguments arch mode slot) t
  | free {slot status : UInt32} {t : Store σ} (hasked : Asked g arch mode s slot status t)
    (hinside : status = 0 → slot.toNat + 4 ≤ t.memory.size) : Reaches "free" [slot.toUInt64] t
  | csOption {slot handle : UInt32} {t u : Store σ} (hasked : Asked g arch mode s slot 0 t)
    (hhandle : t.memory.readWord32 slot = .ok handle) (hfreed : g.Tries "free" [slot.toUInt64] t u) :
    Reaches "cs_option" (syntaxArguments handle) u

/-- **What can go wrong in an opening.** The slot is looked into only if the engine was opened, so that it may lie
outside the memory of an engine that refuses. -/
inductive OpeningBreaks : Prop
  | noRelease (h : ¬ g.hasFunction "free")
  | mismatch {name : String} {arguments : List UInt64} {t : Store σ}
    (hreaches : Reaches g arch mode s name arguments t) (h : g.Mismatch name arguments t)
  | trap {name : String} {arguments : List UInt64} {t u : Store σ} {trap : Trap}
    (hreaches : Reaches g arch mode s name arguments t) (hname : name ≠ "free")
    (h : g.Traps name arguments t trap u)
  | nullSlot {t : Store σ} (hfree : g.hasFunction "free") (h : g.GivesWord "malloc" [4] s 0 t)
  | slotOutside {slot : UInt32} {t : Store σ} (hasked : Asked g arch mode s slot 0 t)
    (h : t.memory.size < slot.toNat + 4)

end

variable {g : Guest σ} {arch : Arch} {mode : Mode} {s t u : Store σ} {slot status : UInt32}

/-! ## The way to a call -/

theorem run_open_of_slotTaken (h : SlotTaken g s slot t) (events : Array Event) :
    (Session.open g arch mode).run ⟨s, events⟩ = (openAt g arch mode slot).run ⟨t, events⟩ := by
  have hmalloc : (g.malloc 4).run ⟨s, events⟩ = (.ok slot, ⟨t, events⟩) := by
    unfold Guest.malloc
    rw [Host.run_bind_of_ok (Guest.run_resolve_of_hasFunction h.hasFree _)]
    exact h.gives.run events
  rw [open_eq, Host.run_bind_of_ok hmalloc, if_neg h.ne_zero]

theorem run_open_of_asked (h : Asked g arch mode s slot status t) (events : Array Event) :
    (Session.open g arch mode).run ⟨s, events⟩ =
      (if status = 0 then adopt g slot else giveUp g arch mode slot status).run ⟨t, events⟩ := by
  obtain ⟨u, htaken, hgives⟩ := h
  have hask : (g.csOpen arch mode slot).run ⟨u, events⟩ = (.ok status, ⟨t, events⟩) := hgives.run events
  rw [run_open_of_slotTaken htaken, openAt, Host.run_bind_of_ok hask]

theorem run_readHandle_of_ok {handle : UInt32} (h : s.memory.readWord32 slot = .ok handle)
    (events : Array Event) :
    (readHandle slot).run ⟨s, events⟩ = (.ok handle, ⟨s, events⟩) := by
  rw [run_readHandle, h]

/-- The slot is given back even if the guest traps over it. -/
theorem run_freeSlot_of_tries (h : g.Tries "free" [slot.toUInt64] s t) (events : Array Event) :
    ∃ events', (freeSlot g slot).run ⟨s, events⟩ = (.ok (), ⟨t, events'⟩) := by
  rw [run_freeSlot]
  rcases h with ⟨number, hgives⟩ | ⟨trap, htraps⟩
  · exact ⟨events, by rw [hgives.run_tryCall]⟩
  · rw [htraps.run_tryCall]
    exact ⟨_, rfl⟩

/-- An option is set even if the engine refuses it. -/
theorem run_setOption_of_givesWord {handle : UInt32}
    (h : g.GivesWord "cs_option" (syntaxArguments handle) s status t) (events : Array Event) :
    ∃ events', (setOption g handle .syntaxFlavour .attSyntax).run ⟨s, events⟩ = (.ok (), ⟨t, events'⟩) := by
  have hoption : (g.csOption handle .syntaxFlavour .attSyntax).run ⟨s, events⟩ = (.ok status, ⟨t, events⟩) :=
    h.run events
  unfold setOption
  rw [Host.run_bind_of_ok hoption]
  split
  · exact ⟨_, Host.run_record _ _⟩
  · exact ⟨events, rfl⟩

/-- An opening panics if the function that frees the slot does, unless the slot cannot be looked into. -/
theorem panics_of_free (hasked : Asked g arch mode s slot status t)
    (hinside : status = 0 → slot.toNat + 4 ≤ t.memory.size)
    (hfree : ∀ events, (g.tryCall "free" [slot.toUInt64]).Panics ⟨t, events⟩) (events : Array Event) :
    (Session.open g arch mode).Panics ⟨s, events⟩ := by
  have hslot : (freeSlot g slot).Panics ⟨t, events⟩ := by
    obtain ⟨p, u, hrun⟩ := hfree events
    exact ⟨p, u, by rw [run_freeSlot, hrun]⟩
  refine .of_run_eq (run_open_of_asked hasked events) ?_
  by_cases hzero : status = 0
  · rw [if_pos hzero]
    have hread := Memory.readWord32_eq_ok.mpr ⟨hinside hzero, rfl⟩
    exact .bind_of_ok (run_readHandle_of_ok hread events) (hslot.bind _)
  · rw [if_neg hzero]
    exact hslot.bind _

/-- An opening panics if the function that sets the flavour of syntax does. -/
theorem panics_of_csOption {handle : UInt32} (hasked : Asked g arch mode s slot 0 t)
    (hhandle : t.memory.readWord32 slot = .ok handle) (hfreed : g.Tries "free" [slot.toUInt64] t u)
    (hoption : ∀ events, (g.call "cs_option" (syntaxArguments handle)).Panics ⟨u, events⟩)
    (events : Array Event) : (Session.open g arch mode).Panics ⟨s, events⟩ := by
  obtain ⟨events', hfree⟩ := run_freeSlot_of_tries hfreed events
  have hset : (setOption g handle .syntaxFlavour .attSyntax).Panics ⟨u, events'⟩ :=
    ((hoption events').bind _).bind _
  refine .of_run_eq (run_open_of_asked hasked events) ?_
  rw [if_pos rfl]
  exact .bind_of_ok (run_readHandle_of_ok hhandle events) (.bind_of_ok hfree (hset.bind _))

/-- What panics at a call that an opening comes to makes the opening panic. -/
theorem Reaches.panics {name : String} {arguments : List UInt64} (h : Reaches g arch mode s name arguments t)
    (hcall : ∀ events, (g.call name arguments).Panics ⟨t, events⟩)
    (hfree : name = "free" → ∀ events, (g.tryCall name arguments).Panics ⟨t, events⟩)
    (events : Array Event) : (Session.open g arch mode).Panics ⟨s, events⟩ := by
  cases h with
  | malloc hhas =>
    have hmalloc : (g.malloc 4).Panics ⟨s, events⟩ :=
      .bind_of_ok (Guest.run_resolve_of_hasFunction hhas _) ((hcall events).bind _)
    exact hmalloc.bind _
  | @csOpen slot _ htaken =>
    have hask : (g.csOpen arch mode slot).Panics ⟨t, events⟩ := (hcall events).bind _
    exact .of_run_eq (run_open_of_slotTaken htaken events) (hask.bind _)
  | free hasked hinside => exact panics_of_free hasked hinside (hfree rfl) events
  | csOption hasked hhandle hfreed => exact panics_of_csOption hasked hhandle hfreed hcall events

/-- What goes wrong makes an opening panic. -/
theorem OpeningBreaks.panics (h : OpeningBreaks g arch mode s) (events : Array Event) :
    (Session.open g arch mode).Panics ⟨s, events⟩ := by
  cases h with
  | noRelease hfree =>
    have hmalloc : (g.malloc 4).Panics ⟨s, events⟩ :=
      Host.Panics.bind ⟨_, _, by rw [Guest.run_resolve, if_neg hfree]⟩ _
    exact hmalloc.bind _
  | mismatch hreaches h => exact hreaches.panics h.panics_call (fun _ => h.panics_tryCall) events
  | trap hreaches hname h => exact hreaches.panics h.panics_call (fun hfree => absurd hfree hname) events
  | @nullSlot t hfree h =>
    have hmalloc : (g.malloc 4).run ⟨s, events⟩ = (.ok 0, ⟨t, events⟩) := by
      unfold Guest.malloc
      rw [Host.run_bind_of_ok (Guest.run_resolve_of_hasFunction hfree _)]
      exact h.run events
    exact .bind_of_ok hmalloc ((Host.Panics.panic _ _).bind _)
  | @slotOutside slot t hasked h =>
    have hread : (readHandle slot : Host σ UInt32).Panics ⟨t, events⟩ := by
      unfold Host.Panics
      rw [run_readHandle]
      cases hword : t.memory.readWord32 slot with
      | ok handle =>
        have hinside := (Memory.readWord32_eq_ok.mp hword).1
        omega
      | error e => exact ⟨_, _, rfl⟩
    refine .of_run_eq (run_open_of_asked hasked events) ?_
    rw [if_pos rfl]
    exact hread.bind _

/-! ## Nothing wrong -/

section

variable (hwhole : ¬ OpeningBreaks g arch mode s)
include hwhole

theorem gives_of_whole {name : String} {arguments : List UInt64} (hreaches : Reaches g arch mode s name arguments t)
    (hname : name ≠ "free") : ∃ word u, g.GivesWord name arguments t word u := by
  rcases g.ends name arguments t with hmismatch | ⟨trap, u, htraps⟩ | ⟨number, u, hgives⟩
  · exact absurd (.mismatch hreaches hmismatch) hwhole
  · exact absurd (.trap hreaches hname htraps) hwhole
  · exact ⟨_, u, number, hgives, rfl⟩

theorem tries_of_whole {name : String} {arguments : List UInt64}
    (hreaches : Reaches g arch mode s name arguments t) : ∃ u, g.Tries name arguments t u := by
  rcases g.ends name arguments t with hmismatch | ⟨trap, u, htraps⟩ | ⟨number, u, hgives⟩
  · exact absurd (.mismatch hreaches hmismatch) hwhole
  · exact ⟨u, .inr ⟨trap, htraps⟩⟩
  · exact ⟨u, .inl ⟨number, hgives⟩⟩

/-- An opening in which nothing is wrong answers. -/
theorem open_of_whole (events : Array Event) :
    ∃ answer t, (Session.open g arch mode).run ⟨s, events⟩ = (.ok answer, t) := by
  have hfree : g.hasFunction "free" := by
    by_contra hfree
    exact hwhole (.noRelease hfree)
  obtain ⟨slot, t, hslot⟩ := gives_of_whole hwhole (.malloc hfree) (by decide)
  have hnull : slot ≠ 0 := by
    rintro rfl
    exact hwhole (.nullSlot hfree hslot)
  have htaken : SlotTaken g s slot t := ⟨hfree, hslot, hnull⟩
  obtain ⟨status, u, hstatus⟩ := gives_of_whole hwhole (.csOpen htaken) (by decide)
  have hasked : Asked g arch mode s slot status u := ⟨t, htaken, hstatus⟩
  have hinside : status = 0 → slot.toNat + 4 ≤ u.memory.size := by
    rintro rfl
    by_contra houtside
    exact hwhole (.slotOutside hasked (by omega))
  obtain ⟨v, hfreed⟩ := tries_of_whole hwhole (.free hasked hinside)
  obtain ⟨events', hslotFreed⟩ := run_freeSlot_of_tries hfreed events
  rw [run_open_of_asked hasked]
  by_cases hzero : status = 0
  · subst hzero
    have hread := Memory.readWord32_eq_ok.mpr ⟨hinside rfl, rfl⟩
    obtain ⟨refused, w, hoption⟩ := gives_of_whole hwhole (.csOption hasked hread hfreed) (by decide)
    obtain ⟨events'', hset⟩ := run_setOption_of_givesWord hoption events'
    rw [if_pos rfl, adopt, Host.run_bind_of_ok (run_readHandle_of_ok hread events),
      Host.run_bind_of_ok hslotFreed, Host.run_bind_of_ok hset, Host.run_pure]
    exact ⟨_, _, rfl⟩
  · rw [if_neg hzero, giveUp, Host.run_bind_of_ok hslotFreed, Host.run_pure]
    exact ⟨_, _, rfl⟩

end

/-- Nothing bounds an opening: it answers or panics. -/
theorem open_ne_stepsExhausted (g : Guest σ) (arch : Arch) (mode : Mode) (s : Scene σ) :
    ((Session.open g arch mode).run s).1 ≠ .error .stepsExhausted := by
  by_cases h : OpeningBreaks g arch mode s.store
  · obtain ⟨p, t, hrun⟩ := h.panics s.events
    simp [hrun]
  · obtain ⟨answer, t, hrun⟩ := open_of_whole h s.events
    simp [hrun]

/-- **The opening protocol.** An opening that answers has made exactly the calls of an `Opening` that accounts for
the answer; it leaves one warning behind for a slot that was not given back and one for a refused flavour of syntax,
and the handle it answers with is the one that all later decodes use. An opening panics exactly if something is wrong
with a call it comes to, and answers otherwise. -/
theorem open_follows (g : Guest σ) (arch : Arch) (mode : Mode) (s : Scene σ) :
    (∀ answer t, (Session.open g arch mode).run s = (.ok answer, t) →
      ∃ o : Opening, openingCalls g arch mode s = o.calls ∧ o.Answers arch mode answer ∧
        t.events.toList = s.events.toList ++ o.warnings ∧ (∀ e ∈ o.warnings, e.level = "WARN") ∧
        ∀ handle, answer = .ok handle → ∀ d : Decoder σ, d.guest = g →
          (Disassembler.mk arch mode (some ⟨t.store, handle⟩)).KeepsHandle d handle) ∧
    ((Session.open g arch mode).Panics s ↔ OpeningBreaks g arch mode s.store) ∧
    ((∃ answer t, (Session.open g arch mode).run s = (.ok answer, t)) ↔
      ¬ OpeningBreaks g arch mode s.store) := by
  have hbreaks (h : OpeningBreaks g arch mode s.store) : (Session.open g arch mode).Panics s := h.panics s.events
  have hwhole (h : ¬ OpeningBreaks g arch mode s.store) :
      ∃ answer t, (Session.open g arch mode).run s = (.ok answer, t) := open_of_whole h s.events
  -- A run ends in one way only.
  have hone (hpanics : (Session.open g arch mode).Panics s)
      (hanswers : ∃ answer t, (Session.open g arch mode).run s = (.ok answer, t)) : False := by
    obtain ⟨p, t, hpanic⟩ := hpanics
    obtain ⟨answer, u, hanswer⟩ := hanswers
    simp [hpanic] at hanswer
  refine ⟨?_, ⟨?_, hbreaks⟩, ⟨fun hanswers h => hone (hbreaks h) hanswers, hwhole⟩⟩
  · intro answer t hrun
    obtain ⟨o, hcalls, hanswers, hevents⟩ := open_eq_ok hrun
    refine ⟨o, hcalls, hanswers, hevents, fun e he => Opening.level_of_mem_warnings he, ?_⟩
    intro handle _ d _
    exact Disassembler.keepsHandle d rfl
  · intro hpanics
    by_contra h
    exact hone hpanics (hwhole h)

/-- A small store. -/
def balkyStore : Store Unit := ⟨.tiny, 0, (), {}⟩

/-- A guest that spoils the slot and traps when it is to free it, and refuses every option. -/
def balky : Guest Unit where
  exports := [("malloc", .function ⟨[.i32], [.i32]⟩), ("free", .function ⟨[.i32], []⟩),
    ("cs_open", .function ⟨[.i32, .i32, .i32], [.i64]⟩), ("cs_option", .function ⟨[.i32, .i32, .i32], [.i32]⟩)]
  initialPages := 0
  start _ surroundings := .ok (balkyStore.within surroundings)
  invoke name _ := fun s =>
    match name with
    | "malloc" => (.ok [.i32 16], s)
    | "cs_open" => (.ok [.i64 4294967296], { s with memory := s.memory.patch 16 [7, 1, 0, 0] })
    | "free" => (.error .unreachable, { s with memory := s.memory.patch 16 [9, 9, 9, 9] })
    | _ => (.ok [.i32 6], s)

/-- The handle is the one that was in the slot before the slot was spoilt, and neither the trap nor the refusal keeps
the engine from being used. -/
theorem balky_follows :
    ((Session.open balky .x86 ⟨8⟩).run { store := balkyStore }).1 = .ok (.ok 263) ∧
    ∃ o : Opening, o.Answers .x86 ⟨8⟩ (.ok 263) ∧
      o.calls.map Call.request =
        [("malloc", [4]), ("cs_open", [3, 8, 16]), ("free", [16]), ("cs_option", [263, 1, 8])] ∧
      o.warnings = [.slotNotFreed (Guest.trapError "free" .unreachable),
        .optionRejected .syntaxFlavour .attSyntax .option] := by
  have hopened : ((Session.open balky .x86 ⟨8⟩).run { store := balkyStore }).1 = .ok (.ok 263) := by
    with_unfolding_all rfl
  refine ⟨hopened, ?_⟩
  obtain ⟨o, hcalls, hanswers, hevents, -⟩ :=
    (open_follows balky .x86 ⟨8⟩ { store := balkyStore }).1 _ _ (Prod.ext hopened rfl)
  refine ⟨o, hanswers, ?_, ?_⟩
  · rw [← hcalls]
    with_unfolding_all rfl
  · exact hevents.symm.trans (by with_unfolding_all rfl)

end Session

end DecoderHost

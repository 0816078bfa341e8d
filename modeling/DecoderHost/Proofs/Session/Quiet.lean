import DecoderHost.Proofs.Session.GivenBack

/-!
# Computations that hold nothing

Between its allocations and its releases a decode only looks at memory, changes it, and calls functions that
have no part in either. Such computations are `Quiet`: they obtain nothing and release nothing, and the one
event they may leave behind announces the panic that ends them.
-/

namespace DecoderHost

variable {σ α β : Type}

/-! ## Events of panics -/

/-- The event that announces a panic. -/
def Panic.announcement? : Panic → Option Event
  | .invalidDatum datum e => some (.invalidDatum datum e)
  | _ => none

/-- The events by which a stop is announced. -/
def Stop.announced : Stop → List Event
  | .panic p => p.announcement?.toList
  | .stepsExhausted => []

/-- The events by which the end of a computation is announced. -/
def announced : Except Stop α → List Event
  | .ok _ => []
  | .error stop => stop.announced

namespace Guest

theorem announcement?_of_prepare {g : Guest σ} {name : String} {arguments : List UInt64} {p : Panic}
    (h : g.prepare name arguments = .error p) : p.announcement? = none := by
  rcases prepare_eq_error h with rfl | ⟨_, rfl⟩ | ⟨_, rfl⟩ <;> rfl

theorem announced_result (c : Call) : announced c.result = [] := by
  unfold Call.result Call.answer
  cases c.outcome with
  | error trap => rfl
  | ok results =>
    dsimp only
    cases hlift : lift c.name results with
    | ok number => rfl
    | error p =>
      rcases results with _ | ⟨_ | _ | _ | _ | _, _⟩ <;> simp only [lift, reduceCtorEq] at hlift <;>
        cases hlift <;> rfl

end Guest

/-! ## Quiet computations -/

/-- A computation that obtains nothing and releases nothing. It records no event but the announcement of
its own panic. -/
def Host.Quiet (m : Host (σ × List Call) α) : Prop :=
  ∀ s, ∃ work, (m.run s).2.calls = s.calls ++ work ∧
    (∀ c ∈ work, ¬ c.IsRelease ∧ c.acquired? = none) ∧
    (m.run s).2.events.toList = s.events.toList ++ announced (m.run s).1

namespace Host.Quiet

theorem pure (a : α) : Quiet (pure a : Host (σ × List Call) α) :=
  fun _ => ⟨[], by simp, by simp, by simp [announced]⟩

theorem throw_stepsExhausted : Quiet (throw .stepsExhausted : Host (σ × List Call) α) :=
  fun _ => ⟨[], by simp, by simp, by simp [announced, Stop.announced]⟩

theorem panic {p : Panic} (h : p.announcement? = none) : Quiet (Host.panic p : Host (σ × List Call) α) :=
  fun _ => ⟨[], by simp, by simp, by simp [announced, Stop.announced, h]⟩

theorem invalid (datum : GuestDatum) (e : OutOfBounds) :
    Quiet (Host.invalid datum e : Host (σ × List Call) α) :=
  fun _ => ⟨[], by simp [Scene.calls], by simp, by simp [announced, Stop.announced, Panic.announcement?]⟩

theorem bind {m : Host (σ × List Call) α} {f : α → Host (σ × List Call) β} (hm : Quiet m)
    (hf : ∀ a, Quiet (f a)) : Quiet (m >>= f) := by
  intro s
  obtain ⟨work, hcalls, hwork, hevents⟩ := hm s
  rw [run_bind]
  rcases hrun : m.run s with ⟨stop | a, t⟩
  · rw [hrun] at hcalls hevents
    exact ⟨work, hcalls, hwork, by simpa [announced] using hevents⟩
  · rw [hrun] at hcalls hevents
    obtain ⟨rest, hcalls', hrest, hevents'⟩ := hf a t
    refine ⟨work ++ rest, ?_, ?_, ?_⟩
    · rw [hcalls', hcalls, List.append_assoc]
    · intro c hc
      rcases List.mem_append.mp hc with hc | hc
      · exact hwork c hc
      · exact hrest c hc
    · rw [hevents', hevents]
      simp [announced]

theorem inspect (datum : GuestDatum) (look : Memory → Except OutOfBounds α) :
    Quiet (Host.inspect datum look : Host (σ × List Call) α) := by
  intro s
  rw [run_inspect]
  cases look s.store.memory with
  | ok a => exact pure a s
  | error e => exact invalid datum e s

theorem alter (datum : GuestDatum) (change : Memory → Except OutOfBounds Unit × Memory) :
    Quiet (Host.alter datum change : Host (σ × List Call) Unit) := by
  intro s
  rw [run_alter]
  cases (change s.store.memory).1 with
  | ok _ => exact ⟨[], by simp [Scene.calls], by simp, by simp [announced]⟩
  | error e => exact invalid datum e { s with store.memory := (change s.store.memory).2 }

theorem call (g : Guest σ) {name : String} {arguments : List UInt64}
    (hname : name ∉ ["malloc", "cs_malloc", "free", "cs_free"])
    (hsmall : ∀ a ∈ arguments, a.toNat < 4294967296) : Quiet (g.recorded.call name arguments) := by
  intro s
  rcases Guest.run_call_recorded g name hsmall s with
    ⟨p, hp, hrun⟩ | ⟨c, t, hmade, hrequest, hrun⟩
  · -- A call that the host refuses to make is a panic, and one without an announcement.
    rw [hrun]
    exact panic (Guest.announcement?_of_prepare hp) s
  · rw [hrun]
    have hc : c.name ∉ ["malloc", "cs_malloc", "free", "cs_free"] := by
      rwa [Call.name_of_request hrequest]
    simp only [List.mem_cons, List.not_mem_nil, or_false, not_or] at hc
    refine ⟨[c], hmade.calls, ?_, by simp [hmade.events, Guest.announced_result]⟩
    intro d hd
    rw [List.mem_singleton.mp hd]
    refine ⟨by simp [Call.IsRelease, hc], ?_⟩
    unfold Call.acquired?
    split <;> simp [hc]

theorem decodeAll (g : Guest σ) (handle : UInt32) (cursor : Session.Cursor) (record : UInt32)
    (steps : Nat) (decoded : Array Instruction) :
    Quiet (Session.decodeAll g.recorded handle cursor record steps decoded) := by
  induction steps generalizing decoded with
  | zero => exact throw_stepsExhausted
  | succ steps ih =>
    have hattempt := Guest.words_lt [handle, cursor.codeSlot, cursor.sizeSlot, cursor.offsetSlot, record]
    have hrecord := Guest.words_lt [record]
    refine (inspect _ _).bind fun offset => ?_
    refine ((call g (by decide) hattempt).bind fun _ => pure _).bind fun more => ?_
    split
    · refine ((call g (by decide) hrecord).bind fun _ => pure _).bind fun mnemonicAt => ?_
      refine ((call g (by decide) hrecord).bind fun _ => pure _).bind fun operandsAt => ?_
      refine ((inspect _ _).bind fun _ => pure _).bind fun mnemonic => ?_
      refine ((inspect _ _).bind fun _ => pure _).bind fun operands => ?_
      exact ih _
    · exact pure _

theorem decodeIn (g : Guest σ) (handle : UInt32) (steps : Nat) (code : List UInt8)
    (record block input : UInt32) :
    Quiet (Session.decodeIn g.recorded handle steps code record block input) := by
  unfold Session.decodeIn
  split
  · exact panic rfl
  · exact (alter _ _).bind fun _ => (decodeAll g _ _ _ _ _).bind fun _ =>
      (inspect _ _).bind fun _ => pure _

end Host.Quiet

end DecoderHost

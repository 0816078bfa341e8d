import DecoderHost.Proofs.Host.Run
import DecoderHost.Session.Decode

/-!
# More rounds change nothing

A decode is given a bound on its rounds. If it does not use the bound up, then it runs in the same way under every
larger bound, whether it answers or panics. So what is proved of a decode under some bound holds under all that are
large enough.
-/

namespace DecoderHost

variable {σ α β : Type}

/-- A computation runs as another one does, unless the other uses its steps up. -/
def Host.Exceeds (m' m : Host σ α) : Prop :=
  ∀ s, (m.run s).1 ≠ .error .stepsExhausted → m'.run s = m.run s

namespace Host.Exceeds

theorem refl (m : Host σ α) : Exceeds m m := fun _ _ => rfl

theorem bind {m' m : Host σ α} {f' f : α → Host σ β} (hm : Exceeds m' m) (hf : ∀ a, Exceeds (f' a) (f a)) :
    Exceeds (m' >>= f') (m >>= f) := by
  intro s hends
  rw [run_bind] at hends ⊢
  rcases hrun : m.run s with ⟨stop | a, t⟩
  · have hstop : stop ≠ .stepsExhausted := by
      rintro rfl
      simp [hrun] at hends
    rw [run_bind, hm s (by simpa [hrun] using hstop), hrun]
  · rw [hrun] at hends
    rw [run_bind, hm s (by simp [hrun]), hrun]
    exact hf a t hends

theorem ensuring {body' body : Host σ α} (hbody : Exceeds body' body) (finish : Host σ Unit) :
    Exceeds (ensuring body' finish) (ensuring body finish) := by
  intro s hends
  have hbodyEnds : (body.run s).1 ≠ .error .stepsExhausted := by
    intro hexhausted
    rcases hrun : body.run s with ⟨outcome, t⟩
    rw [hrun] at hexhausted
    subst hexhausted
    exact hends (by rw [run_ensuring, hrun])
  rw [run_ensuring, run_ensuring, hbody s hbodyEnds]

theorem withAllocation {g : Guest σ} {allocation : Allocation} {body' body : Host σ α}
    (hbody : Exceeds body' body) :
    Exceeds (Session.withAllocation g allocation body') (Session.withAllocation g allocation body) :=
  hbody.ensuring _

theorem withBlock {g : Guest σ} {size : Nat} {body' body : UInt32 → Host σ α}
    (hbody : ∀ address, Exceeds (body' address) (body address)) :
    Exceeds (Session.withBlock g size body') (Session.withBlock g size body) := by
  refine (refl _).bind fun address => ?_
  split
  · exact (refl _).bind fun _ => (hbody address).withAllocation
  · exact (hbody address).withAllocation

theorem withRecord {g : Guest σ} {handle : UInt32} {body' body : UInt32 → Host σ α}
    (hbody : ∀ address, Exceeds (body' address) (body address)) :
    Exceeds (Session.withRecord g handle body') (Session.withRecord g handle body) := by
  refine (refl _).bind fun address => ?_
  split
  · exact (refl _).bind fun _ => (hbody address).withAllocation
  · exact (hbody address).withAllocation

theorem decodeAll (g : Guest σ) (handle : UInt32) (cursor : Session.Cursor) (record : UInt32)
    {steps steps' : Nat} (hsteps : steps ≤ steps') (decoded : Array Instruction) :
    Exceeds (Session.decodeAll g handle cursor record steps' decoded)
      (Session.decodeAll g handle cursor record steps decoded) := by
  induction steps generalizing steps' decoded with
  | zero => exact fun s hends => absurd rfl hends
  | succ steps ih =>
    obtain ⟨steps', rfl⟩ : ∃ n, steps' = n + 1 := ⟨steps' - 1, by omega⟩
    refine (refl _).bind fun offset => (refl _).bind fun found => ?_
    split
    · refine (refl _).bind fun _ => (refl _).bind fun _ => (refl _).bind fun _ => (refl _).bind fun _ => ?_
      exact ih (by omega) _
    · exact refl _

theorem disassemble (g : Guest σ) (handle : UInt32) {steps steps' : Nat} (hsteps : steps ≤ steps')
    (code : List UInt8) :
    Exceeds (Session.disassemble g handle steps' code) (Session.disassemble g handle steps code) := by
  have hscratch : Exceeds
      (Session.withRecord g handle fun record =>
        Session.withBlock g Session.cursorSize fun block =>
          Session.withBlock g code.length fun input =>
            Session.decodeIn g handle steps' code record block input)
      (Session.withRecord g handle fun record =>
        Session.withBlock g Session.cursorSize fun block =>
          Session.withBlock g code.length fun input =>
            Session.decodeIn g handle steps code record block input) := by
    refine withRecord fun record => withBlock fun block => withBlock fun input => ?_
    unfold Session.decodeIn
    split
    · exact refl _
    · exact (refl _).bind fun _ => (decodeAll g _ _ _ hsteps _).bind fun _ => refl _
  unfold Session.disassemble
  split
  · exact (refl _).bind fun _ => hscratch
  · exact hscratch

end Host.Exceeds

/-- **The bound decides nothing.** A decode that ends within some bound ends in the same way within a larger one. -/
theorem Session.run_disassemble_of_le {g : Guest σ} {handle : UInt32} {steps steps' : Nat}
    {code : List UInt8} {s t : Scene σ} {outcome : Except Stop Disassembly}
    (h : (Session.disassemble g handle steps code).run s = (outcome, t))
    (hends : outcome ≠ .error .stepsExhausted) (hsteps : steps ≤ steps') :
    (Session.disassemble g handle steps' code).run s = (outcome, t) := by
  rw [Host.Exceeds.disassemble g handle hsteps code s (by rwa [h]), h]

end DecoderHost

import DecoderHost.Proofs.Guest.Ending
import DecoderHost.Session.Decode
import DecoderHost.Session.Open

/-!
# What a session asks of its guest

A session looks functions up when it needs them, at many places, and panics at the first that is not there. It asks
for nothing but the required functions: where it panics for want of a function, that is a required one which the
guest does not export.
-/

namespace DecoderHost

variable {σ α β : Type} {g : Guest σ}

/-- The function for want of which a panic came about, if that is its reason. -/
def Panic.missing? : Panic → Option String
  | .missingFunction name => some name
  | _ => none

/-- A computation that asks the guest for required functions only: a function for want of which it panics is
required, and the guest lacks it. -/
def Host.AsksRequired (g : Guest σ) (m : Host σ α) : Prop :=
  ∀ s name t, m.run s = (.error (.panic (.missingFunction name)), t) →
    name ∈ Guest.requiredFunctions ∧ ¬ g.hasFunction name

namespace Host.AsksRequired

/-- A computation that wants for nothing. -/
theorem of_ne {m : Host σ α} (h : ∀ s name, (m.run s).1 ≠ .error (.panic (.missingFunction name))) :
    AsksRequired g m := by
  intro s name t hrun
  exact absurd (congrArg Prod.fst hrun) (h s name)

theorem pure (a : α) : AsksRequired g (pure a : Host σ α) := of_ne fun _ _ h => nomatch h

theorem throw_stepsExhausted : AsksRequired g (throw .stepsExhausted : Host σ α) := of_ne fun _ _ h => nomatch h

theorem panic {p : Panic} (hp : p.missing? = none) : AsksRequired g (Host.panic p : Host σ α) := by
  refine of_ne fun s name h => ?_
  obtain rfl := Stop.panic.inj (Except.error.inj h)
  cases hp

theorem record (e : Event) : AsksRequired g (Host.record e : Host σ Unit) := of_ne fun _ _ h => nomatch h

theorem memory : AsksRequired g (Host.memory : Host σ Memory) := of_ne fun _ _ h => nomatch h

theorem inspect (datum : GuestDatum) (look : Memory → Except OutOfBounds α) :
    AsksRequired g (Host.inspect datum look) := by
  refine of_ne fun s name => ?_
  rw [run_inspect]
  cases look s.store.memory <;> simp

theorem alter (datum : GuestDatum) (change : Memory → Except OutOfBounds Unit × Memory) :
    AsksRequired g (Host.alter datum change : Host σ Unit) := by
  refine of_ne fun s name => ?_
  rw [run_alter]
  cases (change s.store.memory).1 <;> simp

theorem bind {m : Host σ α} {f : α → Host σ β} (hm : AsksRequired g m) (hf : ∀ a, AsksRequired g (f a)) :
    AsksRequired g (m >>= f) := by
  intro s name t h
  rw [run_bind] at h
  rcases hrun : m.run s with ⟨stop | a, u⟩
  · rw [hrun] at h
    obtain ⟨hstop, -⟩ := Prod.mk.inj h
    obtain rfl := Except.error.inj hstop
    exact hm s name u hrun
  · rw [hrun] at h
    exact hf a u name t h

theorem ensuring {body : Host σ α} {finish : Host σ Unit} (hbody : AsksRequired g body)
    (hfinish : AsksRequired g finish) : AsksRequired g (Host.ensuring body finish) := by
  intro s name t h
  rw [run_ensuring] at h
  rcases hrun : body.run s with ⟨outcome, u⟩
  rcases hend : finish.run u with ⟨stop | _, v⟩
  · -- The panic is that of `finish`, unless the body has used up its steps.
    rcases outcome with (p | _) | a <;> simp only [hrun, hend] at h
    · obtain rfl := Except.error.inj (Prod.mk.inj h).1
      exact hfinish u name v hend
    · cases h
    · obtain rfl := Except.error.inj (Prod.mk.inj h).1
      exact hfinish u name v hend
  · -- The panic is that of the body.
    rcases outcome with (p | _) | a <;> simp only [hrun, hend] at h
    · obtain rfl := Stop.panic.inj (Except.error.inj (Prod.mk.inj h).1)
      exact hbody s name u hrun
    · cases h
    · cases h

/-! ## Calls -/

variable {name : String}

theorem tryCall (hname : name ∈ Guest.requiredFunctions) (arguments : List UInt64) :
    AsksRequired g (g.tryCall name arguments) := by
  rintro ⟨store, events⟩ missing t h
  obtain ⟨e, hends⟩ := g.exists_ends name arguments store
  rw [hends.run_tryCall] at h
  obtain ⟨htried, -⟩ := Prod.mk.inj h
  cases hends with
  | missing hnone =>
    obtain rfl := Panic.missingFunction.inj (Stop.panic.inj (Except.error.inj htried))
    exact ⟨hname, by simp [Guest.hasFunction, hnone]⟩
  | count => cases htried
  | parameter => cases htried
  | ran _ _ _ hanswer => cases hanswer <;> cases htried

theorem call (hname : name ∈ Guest.requiredFunctions) (arguments : List UInt64) :
    AsksRequired g (g.call name arguments) := by
  refine (tryCall hname arguments).bind fun answer => ?_
  cases answer with
  | ok number => exact pure number
  | error e => exact panic rfl

theorem resolve (hname : name ∈ Guest.requiredFunctions) : AsksRequired g (g.resolve name) := by
  intro s missing t h
  rw [Guest.run_resolve] at h
  split at h
  · cases h
  · rename_i hmissing
    obtain rfl := Panic.missingFunction.inj (Stop.panic.inj (Except.error.inj (Prod.mk.inj h).1))
    exact ⟨hname, hmissing⟩

/-! ## Decodes -/

theorem release (g : Guest σ) (allocation : Allocation) : AsksRequired g (Session.release g allocation) := by
  cases allocation with
  | block address | record address =>
    refine ((tryCall (by decide) _).bind fun _ => pure _).bind fun answer => ?_
    cases answer with
    | ok _ => exact pure ()
    | error e => exact record _

theorem withBlock (size : Nat) {body : UInt32 → Host σ α} (hbody : ∀ address, AsksRequired g (body address)) :
    AsksRequired g (Session.withBlock g size body) := by
  refine ((resolve (by decide)).bind fun _ => (call (by decide) _).bind fun _ => pure _).bind fun address => ?_
  have held := (hbody address).ensuring (release g (.block address))
  dsimp only
  split
  · exact (panic rfl).bind fun _ => held
  · exact held

theorem withRecord (handle : UInt32) {body : UInt32 → Host σ α}
    (hbody : ∀ address, AsksRequired g (body address)) : AsksRequired g (Session.withRecord g handle body) := by
  refine ((resolve (by decide)).bind fun _ => (call (by decide) _).bind fun _ => pure _).bind fun address => ?_
  have held := (hbody address).ensuring (release g (.record address))
  dsimp only
  split
  · exact (panic rfl).bind fun _ => held
  · exact held

theorem decodeAll (g : Guest σ) (handle : UInt32) (cursor : Session.Cursor) (record : UInt32) (steps : Nat)
    (decoded : Array Instruction) :
    AsksRequired g (Session.decodeAll g handle cursor record steps decoded) := by
  induction steps generalizing decoded with
  | zero => exact throw_stepsExhausted
  | succ steps ih =>
    refine (inspect _ _).bind fun offset => ?_
    refine ((call (by decide) _).bind fun _ => pure _).bind fun more => ?_
    split
    · refine ((call (by decide) _).bind fun _ => pure _).bind fun mnemonicAt => ?_
      refine ((call (by decide) _).bind fun _ => pure _).bind fun operandsAt => ?_
      refine ((inspect _ _).bind fun _ => pure _).bind fun mnemonic => ?_
      refine ((inspect _ _).bind fun _ => pure _).bind fun operands => ?_
      exact ih _
    · exact pure _

/-- **A decode asks for required functions only**, its releases included. -/
theorem disassemble (g : Guest σ) (handle : UInt32) (steps : Nat) (code : List UInt8) :
    AsksRequired g (Session.disassemble g handle steps code) := by
  have scratch : AsksRequired g (Session.withRecord g handle fun record =>
      Session.withBlock g Session.cursorSize fun block =>
        Session.withBlock g code.length fun input =>
          Session.decodeIn g handle steps code record block input) := by
    refine withRecord handle fun record => withBlock _ fun block => withBlock _ fun input => ?_
    unfold Session.decodeIn
    split
    · exact panic rfl
    · exact (alter _ _).bind fun _ => (decodeAll g _ _ _ _ _).bind fun _ => (inspect _ _).bind fun _ => pure _
  unfold Session.disassemble
  split
  · exact (panic rfl).bind fun _ => scratch
  · exact scratch

/-! ## Openings -/

theorem freeSlot (g : Guest σ) (slot : UInt32) : AsksRequired g (Session.freeSlot g slot) := by
  refine ((tryCall (by decide) _).bind fun _ => pure _).bind fun answer => ?_
  cases answer with
  | ok _ => exact pure ()
  | error e => exact record _

theorem setOption (g : Guest σ) (handle : UInt32) (option : EngineOption) (value : OptionValue) :
    AsksRequired g (Session.setOption g handle option value) := by
  refine ((call (by decide) _).bind fun _ => pure _).bind fun status => ?_
  split
  · exact record _
  · exact pure _

theorem readHandle (slot : UInt32) : AsksRequired g (Session.readHandle slot) := by
  refine memory.bind fun m => ?_
  split
  · exact pure _
  · exact panic rfl

/-- **An opening asks for required functions only.** -/
theorem «open» (g : Guest σ) (arch : Arch) (mode : Mode) : AsksRequired g (Session.open g arch mode) := by
  refine ((resolve (by decide)).bind fun _ => (call (by decide) _).bind fun _ => pure _).bind fun slot => ?_
  have asked : AsksRequired g (do
      let status ← g.csOpen arch mode slot
      if status = 0 then
        let handle ← Session.readHandle slot
        Session.freeSlot g slot
        Session.setOption g handle .syntaxFlavour .attSyntax
        return .ok handle
      else
        Session.freeSlot g slot
        return .error (.rejected arch mode (Status.ofCode status)) : Host σ (Except OpenError UInt32)) := by
    refine ((call (by decide) _).bind fun _ => pure _).bind fun status => ?_
    split
    · exact (readHandle slot).bind fun handle => (freeSlot g slot).bind fun _ =>
        (setOption g handle _ _).bind fun _ => pure _
    · exact (freeSlot g slot).bind fun _ => pure _
  dsimp only
  split
  · exact (panic rfl).bind fun _ => asked
  · exact asked

end Host.AsksRequired

end DecoderHost

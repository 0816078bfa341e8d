import DecoderHost.Proofs.Host.Run
import DecoderHost.Session.Decode

/-!
# Guests seen through a view

A guest can be seen through a view of its variables: another guest mirrors it if their exports agree and
every call does the same to what the view shows. No session can tell such guests apart.
-/

namespace DecoderHost

variable {σ τ α β : Type}

/-- A scene with its store seen through a view. -/
def Scene.map (view : τ → σ) (s : Scene τ) : Scene σ := ⟨s.store.map view, s.events⟩

/-- A guest that does to the view of its state what another does to its state. -/
structure Guest.Mirrors (view : τ → σ) (g' : Guest τ) (g : Guest σ) : Prop where
  exports : g'.exports = g.exports
  invoke : ∀ name arguments s,
    Prod.map id (Store.map view) (g'.invoke name arguments s) = g.invoke name arguments (s.map view)

/-- A computation that does to the view of a scene what another does to a scene. -/
def Host.Mirrors (view : τ → σ) (m' : Host τ α) (m : Host σ α) : Prop :=
  ∀ s, Prod.map id (Scene.map view) (m'.run s) = m.run (s.map view)

namespace Host.Mirrors

variable {view : τ → σ}

theorem pure (a : α) : Mirrors view (pure a : Host τ α) (pure a) := fun _ => rfl

theorem throw (stop : Stop) : Mirrors view (throw stop : Host τ α) (throw stop) := fun _ => rfl

theorem panic (p : Panic) : Mirrors view (panic p : Host τ α) (panic p) := fun _ => rfl

theorem record (e : Event) : Mirrors view (Host.record e : Host τ Unit) (Host.record e) := fun _ => rfl

theorem bind {m' : Host τ α} {m : Host σ α} {f' : α → Host τ β} {f : α → Host σ β}
    (hm : Mirrors view m' m) (hf : ∀ a, Mirrors view (f' a) (f a)) :
    Mirrors view (m' >>= f') (m >>= f) := by
  intro s
  rw [run_bind, run_bind, ← hm s]
  rcases m'.run s with ⟨stop | a, t⟩
  · rfl
  · exact hf a t

theorem inspect (datum : GuestDatum) (look : Memory → Except OutOfBounds α) :
    Mirrors view (Host.inspect datum look : Host τ α) (Host.inspect datum look) := by
  intro s
  rw [run_inspect, run_inspect, show (s.map view).store.memory = s.store.memory from rfl]
  cases look s.store.memory <;> rfl

theorem alter (datum : GuestDatum) (change : Memory → Except OutOfBounds Unit × Memory) :
    Mirrors view (Host.alter datum change : Host τ Unit) (Host.alter datum change) := by
  intro s
  rw [run_alter, run_alter, show (s.map view).store.memory = s.store.memory from rfl]
  cases (change s.store.memory).1 <;> rfl

theorem ensuring {body' : Host τ α} {body : Host σ α} {finish' : Host τ Unit}
    {finish : Host σ Unit} (hbody : Mirrors view body' body) (hfinish : Mirrors view finish' finish) :
    Mirrors view (Host.ensuring body' finish') (Host.ensuring body finish) := by
  intro s
  rw [run_ensuring, run_ensuring, ← hbody s]
  rcases body'.run s with ⟨(p | _) | a, t⟩
  · simp only [Prod.map, id_eq, ← hfinish t]
    rcases finish'.run t with ⟨_ | ⟨⟩, u⟩ <;> rfl
  · rfl
  · simp only [Prod.map, id_eq, ← hfinish t]
    rcases finish'.run t with ⟨_ | ⟨⟩, u⟩ <;> rfl

end Host.Mirrors

/-! ## Calls and sessions on mirroring guests -/

namespace Guest.Mirrors

variable {view : τ → σ} {g' : Guest τ} {g : Guest σ}

theorem function? (h : Mirrors view g' g) (name : String) : g'.function? name = g.function? name := by
  simp only [Guest.function?, Guest.export?, h.exports]

theorem resolve (h : Mirrors view g' g) (name : String) :
    Host.Mirrors view (g'.resolve name) (g.resolve name) := by
  unfold Guest.resolve Guest.hasFunction
  rw [h.function?]
  split
  · exact .pure ()
  · exact .panic _

theorem tryCall (h : Mirrors view g' g) (name : String) (arguments : List UInt64) :
    Host.Mirrors view (g'.tryCall name arguments) (g.tryCall name arguments) := by
  intro s
  simp only [Host.run, Guest.tryCall, Guest.prepare, h.function?]
  split
  · rfl
  · rename_i values _
    rw [show (s.map view).store = s.store.map view from rfl, ← h.invoke name values s.store]
    rcases g'.invoke name values s.store with ⟨trap | results, t⟩
    · rfl
    · simp only [Prod.map, id_eq]
      cases lift name results <;> rfl

theorem call (h : Mirrors view g' g) (name : String) (arguments : List UInt64) :
    Host.Mirrors view (g'.call name arguments) (g.call name arguments) := by
  refine (h.tryCall name arguments).bind fun answer => ?_
  cases answer with
  | ok number => exact .pure number
  | error e => exact .panic _

theorem release (h : Mirrors view g' g) (allocation : Allocation) :
    Host.Mirrors view (Session.release g' allocation) (Session.release g allocation) := by
  cases allocation with
  | block address | record address =>
    refine ((h.tryCall _ _).bind fun _ => .pure _).bind fun answer => ?_
    cases answer with
    | ok _ => exact .pure ()
    | error e => exact .record _

theorem withBlock (h : Mirrors view g' g) (size : Nat) {body' : UInt32 → Host τ α}
    {body : UInt32 → Host σ α} (hbody : ∀ address, Host.Mirrors view (body' address) (body address)) :
    Host.Mirrors view (Session.withBlock g' size body') (Session.withBlock g size body) := by
  refine ((h.resolve _).bind fun _ => (h.call _ _).bind fun _ => .pure _).bind fun address => ?_
  have held : Host.Mirrors view (Session.withAllocation g' (.block address) (body' address))
      (Session.withAllocation g (.block address) (body address)) :=
    (hbody address).ensuring (h.release _)
  dsimp only
  split
  · exact (Host.Mirrors.panic _).bind fun _ => held
  · exact held

theorem withRecord (h : Mirrors view g' g) (handle : UInt32) {body' : UInt32 → Host τ α}
    {body : UInt32 → Host σ α} (hbody : ∀ address, Host.Mirrors view (body' address) (body address)) :
    Host.Mirrors view (Session.withRecord g' handle body') (Session.withRecord g handle body) := by
  refine ((h.resolve _).bind fun _ => (h.call _ _).bind fun _ => .pure _).bind fun address => ?_
  have held : Host.Mirrors view (Session.withAllocation g' (.record address) (body' address))
      (Session.withAllocation g (.record address) (body address)) :=
    (hbody address).ensuring (h.release _)
  dsimp only
  split
  · exact (Host.Mirrors.panic _).bind fun _ => held
  · exact held

theorem decodeAll (h : Mirrors view g' g) (handle : UInt32) (cursor : Session.Cursor)
    (record : UInt32) (steps : Nat) (decoded : Array Instruction) :
    Host.Mirrors view (Session.decodeAll g' handle cursor record steps decoded)
      (Session.decodeAll g handle cursor record steps decoded) := by
  induction steps generalizing decoded with
  | zero => exact .throw _
  | succ steps ih =>
    -- One line for each operation of the round, in their order.
    refine (Host.Mirrors.inspect _ _).bind fun offset => ?_
    refine ((h.call _ _).bind fun _ => .pure _).bind fun more => ?_
    split
    · refine ((h.call _ _).bind fun _ => .pure _).bind fun mnemonicAt => ?_
      refine ((h.call _ _).bind fun _ => .pure _).bind fun operandsAt => ?_
      refine ((Host.Mirrors.inspect _ _).bind fun _ => .pure _).bind fun mnemonic => ?_
      refine ((Host.Mirrors.inspect _ _).bind fun _ => .pure _).bind fun operands => ?_
      exact ih _
    · exact .pure _

/-- **A session cannot tell mirroring guests apart.** -/
theorem disassemble (h : Mirrors view g' g) (handle : UInt32) (steps : Nat) (code : List UInt8) :
    Host.Mirrors view (Session.disassemble g' handle steps code)
      (Session.disassemble g handle steps code) := by
  have scratch : Host.Mirrors view
      (Session.withRecord g' handle fun record =>
        Session.withBlock g' Session.cursorSize fun block =>
          Session.withBlock g' code.length fun input =>
            Session.decodeIn g' handle steps code record block input)
      (Session.withRecord g handle fun record =>
        Session.withBlock g Session.cursorSize fun block =>
          Session.withBlock g code.length fun input =>
            Session.decodeIn g handle steps code record block input) := by
    refine h.withRecord handle fun record => h.withBlock _ fun block => h.withBlock _ fun input => ?_
    unfold Session.decodeIn
    split
    · exact .panic _
    · exact (Host.Mirrors.alter _ _).bind fun _ => (h.decodeAll _ _ _ _ _).bind fun _ =>
        (Host.Mirrors.inspect _ _).bind fun _ => .pure _
  unfold Session.disassemble
  split
  · exact (Host.Mirrors.panic _).bind fun _ => scratch
  · exact scratch

end Guest.Mirrors

end DecoderHost

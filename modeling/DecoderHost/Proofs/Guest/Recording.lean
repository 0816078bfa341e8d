import DecoderHost.Proofs.Guest.Call
import DecoderHost.Proofs.Guest.View

/-!
# Recording guests

`Guest.recorded g` is `g` with a list of the calls made so far in its state, each with its arguments, its
outcome and the memory before and after it. So the calls of a session are a value that the session itself
computes, and keeping them changes nothing else: `g.recorded` mirrors `g` once the list is forgotten.
-/

namespace DecoderHost

variable {σ α : Type}

/-- The bits of a value as a number; a reference has none. -/
def Value.number : Value → UInt64
  | .i32 bits => bits.toUInt64
  | .i64 bits => bits
  | .f32 bits => bits.toUInt64
  | .f64 bits => bits
  | .v128 bits => UInt64.ofNat bits.toNat
  | .reference _ => 0

/-- A call of a guest's function: what the function was given, how it ended, and the memory before and
after it. -/
structure Call where
  name : String
  arguments : List Value
  outcome : Except Trap (List Value)
  before : Memory
  after : Memory

namespace Call

/-- The function called, and the numbers it was called with. -/
def request (c : Call) : String × List UInt64 := (c.name, c.arguments.map Value.number)

/-- The number that the call gave, unless it trapped or gave something else. -/
def returned? (c : Call) : Option UInt64 :=
  match c.outcome with
  | .ok results => (Guest.lift c.name results).toOption
  | .error _ => none

/-- The trap that ended the call, if one did. -/
def trap? (c : Call) : Option Trap :=
  match c.outcome with
  | .ok _ => none
  | .error trap => some trap

/-- What a host that takes traps for errors makes of the outcome. -/
def answer (c : Call) : Except Stop (Except HostError UInt64) :=
  match c.outcome with
  | .error trap => .ok (.error (Guest.trapError c.name trap))
  | .ok results =>
    match Guest.lift c.name results with
    | .error p => .error (.panic p)
    | .ok number => .ok (.ok number)

/-- What a host that takes traps for panics makes of the outcome. -/
def result (c : Call) : Except Stop UInt64 :=
  match c.answer with
  | .error stop => .error stop
  | .ok (.error e) => .error (.panic (.callFailed e))
  | .ok (.ok number) => .ok number

theorem result_eq_ok {c : Call} {number : UInt64} : c.result = .ok number ↔ c.returned? = some number := by
  unfold result answer returned?
  cases c.outcome with
  | error trap => simp
  | ok results =>
    dsimp only
    cases Guest.lift c.name results <;> simp [Except.toOption]

theorem returned?_of_result_error {c : Call} {stop : Stop} (h : c.result = .error stop) :
    c.returned? = none := by
  cases hreturned : c.returned? with
  | none => rfl
  | some number =>
    rw [result_eq_ok.mpr hreturned] at h
    cases h

end Call

/-- A store with an empty log. -/
def Store.recorded (s : Store σ) : Store (σ × List Call) := s.map fun globals => (globals, [])

/-- The guest that behaves as `g` and keeps a list of its calls. -/
def Guest.recorded (g : Guest σ) : Guest (σ × List Call) where
  exports := g.exports
  initialPages := g.initialPages
  start limit surroundings := (g.start limit surroundings).map Store.recorded
  invoke name arguments := fun s =>
    let (outcome, t) := g.invoke name arguments (s.map Prod.fst)
    let call : Call := { name, arguments, outcome, before := s.memory, after := t.memory }
    (outcome, t.map fun globals => (globals, s.globals.2 ++ [call]))

/-- The log of calls in a scene. -/
def Scene.calls (s : Scene (σ × List Call)) : List Call := s.store.globals.2

/-- A scene with an empty log. -/
def Scene.recorded (s : Scene σ) : Scene (σ × List Call) :=
  ⟨s.store.recorded, s.events⟩

/-- The calls that a decode makes, in order. -/
def Session.callsOf (g : Guest σ) (handle : UInt32) (steps : Nat) (code : List UInt8) (s : Scene σ) :
    List Call :=
  ((Session.disassemble g.recorded handle steps code).run s.recorded).2.calls

theorem Guest.recorded_mirrors (g : Guest σ) : Guest.Mirrors Prod.fst g.recorded g where
  exports := rfl
  invoke _ _ _ := rfl

/-- Recording changes neither how a decode ends nor the scene it leaves behind. -/
theorem Session.run_disassemble_recorded (g : Guest σ) (handle : UInt32) (steps : Nat)
    (code : List UInt8) (s : Scene σ) :
    (Session.disassemble g handle steps code).run s =
      Prod.map id (Scene.map Prod.fst) ((Session.disassemble g.recorded handle steps code).run s.recorded) :=
  (g.recorded_mirrors.disassemble handle steps code s.recorded).symm

/-- From one scene to the next, one call was made and logged. -/
structure Guest.Makes (g : Guest σ) (s : Scene (σ × List Call)) (c : Call)
    (t : Scene (σ × List Call)) : Prop where
  invoke : g.invoke c.name c.arguments (s.store.map Prod.fst) = (c.outcome, t.store.map Prod.fst)
  calls : t.calls = s.calls ++ [c]
  before : c.before = s.store.memory
  after : c.after = t.store.memory
  events : t.events = s.events

namespace Guest

/-- Words of 32 bits are still such words when they are handed over. -/
theorem words_lt (words : List UInt32) :
    ∀ number ∈ words.map UInt32.toUInt64, number.toNat < 4294967296 := by
  intro number hnumber
  obtain ⟨word, -, rfl⟩ := List.mem_map.mp hnumber
  rw [UInt32.toNat_toUInt64]
  exact word.toNat_lt

/-- A size that fits a word of 32 bits does so when it is handed over. -/
theorem size_lt {size : Nat} (h : size < 4294967296) :
    ∀ number ∈ [UInt64.ofNat size], number.toNat < 4294967296 := by
  intro number hnumber
  rw [List.mem_singleton.mp hnumber, UInt64.toNat_ofNat']
  omega

/-- Arguments that fit a word of 32 bits reach the function unchanged, whatever the widths of its
parameters. -/
theorem Lowers.numbers {types : List ValueType} {arguments : List UInt64} {values : List Value}
    (h : Lowers types arguments values) (hsmall : ∀ a ∈ arguments, a.toNat < 4294967296) :
    values.map Value.number = arguments := by
  induction h with
  | nil => rfl
  | @i32 _ _ _ argument bits hbits _ ih =>
    obtain ⟨hargument, hsmall⟩ := List.forall_mem_cons.mp hsmall
    have hnumber : bits.toUInt64 = argument := by
      apply UInt64.toNat_inj.mp
      rw [UInt32.toNat_toUInt64, hbits, Nat.mod_eq_of_lt hargument]
    rw [List.map_cons, ih hsmall, Value.number, hnumber]
  | i64 _ ih => rw [List.map_cons, ih (List.forall_mem_cons.mp hsmall).2, Value.number]

theorem numbers_of_prepare {g : Guest σ} {name : String} {arguments : List UInt64} {values : List Value}
    (h : g.prepare name arguments = .ok values) (hsmall : ∀ a ∈ arguments, a.toNat < 4294967296) :
    values.map Value.number = arguments := by
  obtain ⟨signature, -, hvalues⟩ := prepare_eq_ok.mp h
  exact hvalues.numbers hsmall

variable {g : Guest σ} {name : String} {arguments : List UInt64}

/-- A call that is prepared is made and logged, and the host goes by how it ended. -/
theorem run_tryCall_recorded {values : List Value} (h : g.prepare name arguments = .ok values)
    (s : Scene (σ × List Call)) :
    ∃ c t, g.Makes s c t ∧ c.name = name ∧ c.arguments = values ∧
      (g.recorded.tryCall name arguments).run s = (c.answer, t) := by
  have hp : g.recorded.prepare name arguments = .ok values := h
  rcases hi : g.invoke name values (s.store.map Prod.fst) with ⟨outcome, u⟩
  -- The call as it is logged, and the store in which the log is one call longer.
  let c : Call := ⟨name, values, outcome, s.store.memory, u.memory⟩
  let after : Store (σ × List Call) := u.map fun globals => (globals, s.calls ++ [c])
  have hinvoke : g.recorded.invoke name values s.store = (outcome, after) := by
    simp only [recorded, hi]
    rfl
  refine ⟨c, ⟨after, s.events⟩, ⟨hi, rfl, rfl, rfl, rfl⟩, rfl, rfl, ?_⟩
  simp only [Host.run, tryCall, hp, hinvoke]
  cases outcome with
  | error trap => rfl
  | ok results =>
    simp only [Call.answer, c]
    cases lift name results <;> rfl

/-- Either the host refuses to make a call, and nothing happens, or the call is made and logged. -/
theorem run_call_recorded (g : Guest σ) (name : String) {arguments : List UInt64}
    (hsmall : ∀ a ∈ arguments, a.toNat < 4294967296)
    (s : Scene (σ × List Call)) :
    (∃ p, g.prepare name arguments = .error p ∧
      (g.recorded.call name arguments).run s = (.error (.panic p), s)) ∨
    ∃ c t, g.Makes s c t ∧ c.request = (name, arguments) ∧
      (g.recorded.call name arguments).run s = (c.result, t) := by
  cases hp : g.prepare name arguments with
  | error p =>
    refine .inl ⟨p, rfl, ?_⟩
    rw [run_call, run_tryCall_unprepared (g := g.recorded) hp]
  | ok values =>
    obtain ⟨c, t, hmade, hname, harguments, hrun⟩ := run_tryCall_recorded hp s
    refine .inr ⟨c, t, hmade, ?_, ?_⟩
    · rw [Call.request, hname, harguments, numbers_of_prepare hp hsmall]
    · rw [run_call, hrun, Call.result]
      rcases c.answer with stop | (e | number) <;> rfl

/-- A call that gave a number was made, and the log has it. -/
theorem call_recorded_eq_ok (hsmall : ∀ a ∈ arguments, a.toNat < 4294967296)
    {s t : Scene (σ × List Call)} {number : UInt64}
    (h : (g.recorded.call name arguments).run s = (.ok number, t)) :
    ∃ c, g.Makes s c t ∧ c.request = (name, arguments) ∧ c.returned? = some number := by
  rcases run_call_recorded g name hsmall s with ⟨p, _, hrun⟩ | ⟨c, u, hmade, hrequest, hrun⟩
  · simp [hrun] at h
  · rw [hrun, Prod.mk.injEq] at h
    obtain ⟨hresult, rfl⟩ := h
    exact ⟨c, hmade, hrequest, Call.result_eq_ok.mp hresult⟩

end Guest

end DecoderHost

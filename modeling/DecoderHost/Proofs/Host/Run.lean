import DecoderHost.Guest.Call

/-!
# Running host computations

How the operations of the host run in a scene, one equation each, and what a finished sequence says about
its parts. Everything proved of sessions goes through these equations; the monad is opened nowhere else.
-/

namespace DecoderHost.Host

variable {σ α β : Type}

/-- What comes of a computation that is started in a scene. -/
def run (m : Host σ α) (s : Scene σ) : Except Stop α × Scene σ := m s

@[simp] theorem run_pure (a : α) (s : Scene σ) : run (pure a) s = (.ok a, s) := rfl

theorem run_bind (m : Host σ α) (f : α → Host σ β) (s : Scene σ) :
    run (m >>= f) s = match run m s with
      | (.ok a, t) => run (f a) t
      | (.error stop, t) => (.error stop, t) := by
  unfold run
  simp only [bind, ExceptT.bind, ExceptT.mk, StateT.bind]
  cases m s with
  | mk r t => cases r <;> rfl

/-- What follows a computation that gave an answer. -/
theorem run_bind_of_ok {m : Host σ α} {f : α → Host σ β} {s t : Scene σ} {a : α}
    (h : run m s = (.ok a, t)) : run (m >>= f) s = run (f a) t := by
  rw [run_bind, h]

/-- Nothing follows a computation that stopped. -/
theorem run_bind_of_error {m : Host σ α} {f : α → Host σ β} {s t : Scene σ} {stop : Stop}
    (h : run m s = (.error stop, t)) : run (m >>= f) s = (.error stop, t) := by
  rw [run_bind, h]

@[simp] theorem run_throw (stop : Stop) (s : Scene σ) :
    run (throw stop : Host σ α) s = (.error stop, s) := rfl

@[simp] theorem run_panic (p : Panic) (s : Scene σ) :
    run (panic p : Host σ α) s = (.error (.panic p), s) := rfl

@[simp] theorem run_record (e : Event) (s : Scene σ) :
    run (record e) s = (.ok (), { s with events := s.events.push e }) := rfl

@[simp] theorem run_memory (s : Scene σ) : run memory s = (.ok s.store.memory, s) := rfl

@[simp] theorem run_invalid (datum : GuestDatum) (e : OutOfBounds) (s : Scene σ) :
    run (invalid datum e : Host σ α) s = (.error (.panic (.invalidDatum datum e)),
      { s with events := s.events.push (.invalidDatum datum e) }) := rfl

theorem run_inspect (datum : GuestDatum) (look : Memory → Except OutOfBounds α) (s : Scene σ) :
    run (inspect datum look) s = match look s.store.memory with
      | .ok a => (.ok a, s)
      | .error e => run (invalid datum e) s := by
  show run (match look s.store.memory with
    | .ok a => (pure a : Host σ α)
    | .error e => invalid datum e) s = _
  cases look s.store.memory <;> rfl

theorem run_alter (datum : GuestDatum) (change : Memory → Except OutOfBounds Unit × Memory)
    (s : Scene σ) :
    run (alter datum change) s =
      match (change s.store.memory).1 with
      | .ok () => (.ok (), { s with store.memory := (change s.store.memory).2 })
      | .error e => run (invalid datum e) { s with store.memory := (change s.store.memory).2 } := by
  show run (match (change s.store.memory).1 with
    | .ok () => (pure () : Host σ Unit)
    | .error e => invalid datum e) { s with store.memory := (change s.store.memory).2 } = _
  cases (change s.store.memory).1 <;> rfl

theorem run_ensuring (body : Host σ α) (finish : Host σ Unit) (s : Scene σ) :
    run (ensuring body finish) s = match run body s with
      | (.error .stepsExhausted, t) => (.error .stepsExhausted, t)
      | (outcome, t) => match run finish t with
        | (.ok (), u) => (outcome, u)
        | (.error stop, u) => (.error stop, u) := rfl

/-! ## Finished computations -/

theorem bind_eq_ok {m : Host σ α} {f : α → Host σ β} {s t : Scene σ} {b : β} :
    run (m >>= f) s = (.ok b, t) ↔ ∃ a u, run m s = (.ok a, u) ∧ run (f a) u = (.ok b, t) := by
  rw [run_bind]
  rcases run m s with ⟨stop | a, u⟩ <;> simp [and_assoc]

theorem inspect_eq_ok {datum : GuestDatum} {look : Memory → Except OutOfBounds α} {s t : Scene σ}
    {a : α} : run (inspect datum look) s = (.ok a, t) ↔ look s.store.memory = .ok a ∧ t = s := by
  rw [run_inspect]
  cases look s.store.memory <;> simp [eq_comm]

theorem alter_eq_ok {datum : GuestDatum} {change : Memory → Except OutOfBounds Unit × Memory}
    {s t : Scene σ} : run (alter datum change) s = (.ok (), t) ↔
      (change s.store.memory).1 = .ok () ∧
        t = { s with store.memory := (change s.store.memory).2 } := by
  rw [run_alter]
  cases (change s.store.memory).1 <;> simp [eq_comm]

/-- A guarded computation is finished only if the computation and what follows it are. -/
theorem ensuring_eq_ok {body : Host σ α} {finish : Host σ Unit} {s t : Scene σ} {a : α} :
    run (ensuring body finish) s = (.ok a, t) ↔
      ∃ u, run body s = (.ok a, u) ∧ run finish u = (.ok (), t) := by
  rw [run_ensuring]
  rcases run body s with ⟨(p | _) | b, u⟩ <;> dsimp only
  · rcases run finish u with ⟨_ | ⟨⟩, v⟩ <;> simp
  · simp
  · rcases hf : run finish u with ⟨_ | ⟨⟩, v⟩ <;> dsimp only
    · simp [hf]
    · constructor
      · intro h
        simp only [Prod.mk.injEq, Except.ok.injEq] at h
        exact ⟨u, by rw [h.1], by rw [hf, h.2]⟩
      · rintro ⟨w, hb, hw⟩
        simp only [Prod.mk.injEq, Except.ok.injEq] at hb
        obtain ⟨rfl, rfl⟩ := hb
        simp only [hf, Prod.mk.injEq, true_and] at hw
        rw [hw]

end DecoderHost.Host

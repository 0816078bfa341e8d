import DecoderHost.Proofs.Guest.Integers

/-!
# How a call ends

A call of a guest's function ends in one of three ways. It gives a number; it traps; or it does not match: the
function is missing, takes another number of arguments or one that is no integer, or its first result is none.
What the host makes of a call depends on nothing else.
-/

namespace DecoderHost

variable {σ α β : Type}

namespace Guest

/-- A function is exported and takes `count` integers. -/
def Fits (g : Guest σ) (name : String) (count : Nat) : Prop :=
  ∃ signature, g.function? name = some signature ∧ signature.parameters.length = count ∧
    ∀ type ∈ signature.parameters, type = .i32 ∨ type = .i64

/-- A call gives a number. -/
def Gives (g : Guest σ) (name : String) (arguments : List UInt64) (s : Store σ) (number : UInt64)
    (t : Store σ) : Prop :=
  ∃ values results, g.prepare name arguments = .ok values ∧ g.invoke name values s = (.ok results, t) ∧
    lift name results = .ok number

/-- A call gives a number whose low 32 bits are a word. -/
def GivesWord (g : Guest σ) (name : String) (arguments : List UInt64) (s : Store σ) (word : UInt32)
    (t : Store σ) : Prop :=
  ∃ number, g.Gives name arguments s number t ∧ number.toUInt32 = word

/-- A call traps. -/
def Traps (g : Guest σ) (name : String) (arguments : List UInt64) (s : Store σ) (trap : Trap)
    (t : Store σ) : Prop :=
  ∃ values, g.prepare name arguments = .ok values ∧ g.invoke name values s = (.error trap, t)

/-- A call is of a function that does not match it. -/
inductive Mismatch (g : Guest σ) (name : String) (arguments : List UInt64) (s : Store σ) : Prop
  | unfit (h : ¬ g.Fits name arguments.length)
  | result {values : List Value} {value : Value} {rest : List Value} {t : Store σ}
    (hprepare : g.prepare name arguments = .ok values)
    (hinvoke : g.invoke name values s = (.ok (value :: rest), t)) (h : ¬ value.IsInteger)

variable {g : Guest σ} {name : String} {arguments : List UInt64} {s t : Store σ} {number : UInt64}
  {trap : Trap}

/-! ## One of three -/

/-- The arguments of a call can be prepared exactly if the function fits. -/
theorem fits_iff_prepare :
    g.Fits name arguments.length ↔ ∃ values, g.prepare name arguments = .ok values := by
  constructor
  · rintro ⟨signature, hsignature, hlength, htypes⟩
    obtain ⟨values, hvalues⟩ := exists_lowers hlength htypes
    exact ⟨values, prepare_eq_ok.mpr ⟨signature, hsignature, hvalues⟩⟩
  · rintro ⟨values, hprepare⟩
    obtain ⟨signature, hsignature, hvalues⟩ := prepare_eq_ok.mp hprepare
    exact ⟨signature, hsignature, hvalues.length_eq, hvalues.isInteger⟩

theorem lift_eq_error {results : List Value} {p : Panic} (h : lift name results = .error p) :
    ∃ value rest, results = value :: rest ∧ ¬ value.IsInteger := by
  rcases results with _ | ⟨value, rest⟩
  · simp [lift] at h
  · refine ⟨value, rest, rfl, ?_⟩
    cases value <;> simp [lift, Value.IsInteger] at h ⊢

theorem lift_of_not_isInteger (name : String) {value : Value} (h : ¬ value.IsInteger) (rest : List Value) :
    ∃ p, lift name (value :: rest) = .error p := by
  cases value with
  | i32 | i64 => exact absurd trivial h
  | f32 | f64 | v128 | reference => exact ⟨_, rfl⟩

/-- A call ends in one of the three ways. -/
theorem ends (g : Guest σ) (name : String) (arguments : List UInt64) (s : Store σ) :
    g.Mismatch name arguments s ∨ (∃ trap t, g.Traps name arguments s trap t) ∨
      ∃ number t, g.Gives name arguments s number t := by
  by_cases hfits : g.Fits name arguments.length
  · obtain ⟨values, hprepare⟩ := fits_iff_prepare.mp hfits
    rcases hinvoke : g.invoke name values s with ⟨trap | results, t⟩
    · exact .inr (.inl ⟨trap, t, values, hprepare, hinvoke⟩)
    · cases hlift : lift name results with
      | error p =>
        obtain ⟨value, rest, rfl, hvalue⟩ := lift_eq_error hlift
        exact .inl (.result hprepare hinvoke hvalue)
      | ok number => exact .inr (.inr ⟨number, t, values, results, hprepare, hinvoke, hlift⟩)
  · exact .inl (.unfit hfits)

/-- A call gives one number, and leaves one store. -/
theorem Gives.unique {u : Store σ} {other : UInt64} (h : g.Gives name arguments s number t)
    (h' : g.Gives name arguments s other u) : number = other ∧ t = u := by
  obtain ⟨values, results, hprepare, hinvoke, hlift⟩ := h
  obtain ⟨values', results', hprepare', hinvoke', hlift'⟩ := h'
  obtain rfl : values = values' := Except.ok.inj (hprepare.symm.trans hprepare')
  obtain ⟨hresults, rfl⟩ := Prod.mk.inj (hinvoke.symm.trans hinvoke')
  obtain rfl : results = results' := Except.ok.inj hresults
  exact ⟨Except.ok.inj (hlift.symm.trans hlift'), rfl⟩

/-! ## What the host makes of it -/

theorem Gives.run_tryCall (h : g.Gives name arguments s number t) (events : Array Event) :
    (g.tryCall name arguments).run ⟨s, events⟩ = (.ok (.ok number), ⟨t, events⟩) := by
  obtain ⟨values, results, hprepare, hinvoke, hlift⟩ := h
  simp only [Host.run, tryCall, hprepare, hinvoke, hlift]

theorem Gives.run_call (h : g.Gives name arguments s number t) (events : Array Event) :
    (g.call name arguments).run ⟨s, events⟩ = (.ok number, ⟨t, events⟩) := by
  rw [Guest.run_call, h.run_tryCall]

theorem GivesWord.run {word : UInt32} (h : g.GivesWord name arguments s word t) (events : Array Event) :
    Host.run (do return (← g.call name arguments).toUInt32) ⟨s, events⟩ = (.ok word, ⟨t, events⟩) := by
  obtain ⟨number, hgives, rfl⟩ := h
  rw [Host.run_bind_of_ok (hgives.run_call events), Host.run_pure]

/-- Before an allocation the function that releases it is looked up, which changes nothing if there is one. -/
theorem GivesWord.run_resolved {word : UInt32} {releaseFunction : String} (hhas : g.hasFunction releaseFunction)
    (h : g.GivesWord name arguments s word t) (events : Array Event) :
    Host.run (do
      g.resolve releaseFunction
      return (← g.call name arguments).toUInt32) ⟨s, events⟩ = (.ok word, ⟨t, events⟩) := by
  rw [Host.run_bind_of_ok (run_resolve_of_hasFunction hhas _), h.run]

theorem Traps.run_tryCall (h : g.Traps name arguments s trap t) (events : Array Event) :
    (g.tryCall name arguments).run ⟨s, events⟩ =
      (.ok (.error (trapError name trap)), ⟨t, events⟩) := by
  obtain ⟨values, hprepare, hinvoke⟩ := h
  simp only [Host.run, tryCall, hprepare, hinvoke]

end Guest

/-! ## Panics -/

/-- A computation panics. -/
def Host.Panics (m : Host σ α) (s : Scene σ) : Prop := ∃ p t, m.run s = (.error (.panic p), t)

namespace Host.Panics

theorem panic (p : Panic) (s : Scene σ) : Panics (Host.panic p : Host σ α) s := ⟨p, s, rfl⟩

theorem bind {m : Host σ α} {s : Scene σ} (h : Panics m s) (f : α → Host σ β) : Panics (m >>= f) s := by
  obtain ⟨p, t, hrun⟩ := h
  exact ⟨p, t, run_bind_of_error hrun⟩

theorem bind_of_ok {m : Host σ α} {f : α → Host σ β} {s t : Scene σ} {a : α} (hrun : m.run s = (.ok a, t))
    (h : Panics (f a) t) : Panics (m >>= f) s := by
  obtain ⟨p, u, hpanic⟩ := h
  exact ⟨p, u, by rw [run_bind_of_ok hrun, hpanic]⟩

/-- A computation panics if it runs as one that does. -/
theorem of_run_eq {m n : Host σ α} {s t : Scene σ} (hrun : m.run s = n.run t)
    (h : Panics n t) : Panics m s := by
  obtain ⟨p, u, hpanic⟩ := h
  exact ⟨p, u, by rw [hrun, hpanic]⟩

end Host.Panics

namespace Guest

variable {g : Guest σ} {name : String} {arguments : List UInt64} {s t : Store σ} {trap : Trap}

theorem Mismatch.panics_tryCall (h : g.Mismatch name arguments s) (events : Array Event) :
    (g.tryCall name arguments).Panics ⟨s, events⟩ := by
  cases h with
  | unfit hfits =>
    cases hprepare : g.prepare name arguments with
    | error p => exact ⟨p, _, run_tryCall_unprepared hprepare _⟩
    | ok values => exact absurd (fits_iff_prepare.mpr ⟨values, hprepare⟩) hfits
  | @result values value rest t hprepare hinvoke hvalue =>
    obtain ⟨p, hlift⟩ := lift_of_not_isInteger name hvalue rest
    exact ⟨p, ⟨t, events⟩, by simp only [Host.run, tryCall, hprepare, hinvoke, hlift]⟩

theorem Mismatch.panics_call (h : g.Mismatch name arguments s) (events : Array Event) :
    (g.call name arguments).Panics ⟨s, events⟩ := (h.panics_tryCall events).bind _

theorem Traps.panics_call (h : g.Traps name arguments s trap t) (events : Array Event) :
    (g.call name arguments).Panics ⟨s, events⟩ := .bind_of_ok (h.run_tryCall events) (.panic _ _)

end Guest

/-! ## Calls that succeed -/

namespace Guest

variable {g : Guest σ} {name : String} {arguments : List UInt64} {s : Scene (σ × List Call)} {t : Store σ}

/-- A call that gives a number is made and logged. -/
theorem Gives.run_call_recorded {number : UInt64} (h : g.Gives name arguments (s.store.map Prod.fst) number t)
    (hsmall : ∀ a ∈ arguments, a.toNat < 4294967296) :
    ∃ c u, g.Makes s c u ∧ c.request = (name, arguments) ∧ c.returned? = some number ∧
      u.store.map Prod.fst = t ∧ (g.recorded.call name arguments).run s = (.ok number, u) := by
  obtain ⟨values, results, hprepare, hinvoke, hlift⟩ := h
  obtain ⟨c, u, hmade, hname, harguments, hrun⟩ := run_tryCall_recorded hprepare s
  have hends := hmade.invoke
  rw [hname, harguments, hinvoke, Prod.mk.injEq] at hends
  obtain ⟨houtcome, hstore⟩ := hends
  refine ⟨c, u, hmade, ?_, ?_, hstore.symm, ?_⟩
  · rw [Call.request, hname, harguments, numbers_of_prepare hprepare hsmall]
  · simp [Call.returned?, ← houtcome, hname, hlift, Except.toOption]
  · rw [Guest.run_call, hrun]
    simp [Call.answer, ← houtcome, hname, hlift]

theorem GivesWord.run_call_recorded {word : UInt32}
    (h : g.GivesWord name arguments (s.store.map Prod.fst) word t)
    (hsmall : ∀ a ∈ arguments, a.toNat < 4294967296) :
    ∃ c u, g.Makes s c u ∧ c.request = (name, arguments) ∧ u.store.map Prod.fst = t ∧
      Host.run (do return (← g.recorded.call name arguments).toUInt32) s = (.ok word, u) := by
  obtain ⟨number, hgives, rfl⟩ := h
  obtain ⟨c, u, hmade, hrequest, -, hstore, hrun⟩ := hgives.run_call_recorded hsmall
  exact ⟨c, u, hmade, hrequest, hstore, by rw [Host.run_bind_of_ok hrun, Host.run_pure]⟩

/-- An allocation looks the function that releases it up first. -/
theorem GivesWord.run_allocate {word : UInt32} {releaseFunction : String} (hhas : g.hasFunction releaseFunction)
    (h : g.GivesWord name arguments (s.store.map Prod.fst) word t)
    (hsmall : ∀ a ∈ arguments, a.toNat < 4294967296) :
    ∃ c u, g.Makes s c u ∧ c.request = (name, arguments) ∧ u.store.map Prod.fst = t ∧
      Host.run (do
        g.recorded.resolve releaseFunction
        return (← g.recorded.call name arguments).toUInt32) s = (.ok word, u) := by
  obtain ⟨c, u, hmade, hrequest, hstore, hrun⟩ := h.run_call_recorded hsmall
  have hresolve := run_resolve_of_hasFunction (g := g.recorded) hhas s
  exact ⟨c, u, hmade, hrequest, hstore, by rw [Host.run_bind_of_ok hresolve, hrun]⟩

end Guest

end DecoderHost

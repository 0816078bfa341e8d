import DecoderHost.Bench
import DecoderHost.Guest.Probe
import DecoderHost.Proofs.Fleet.Named
import DecoderHost.Proofs.Guest.Ending

/-!
# Calls on a bench

Functions of an instance are called one after another, and some of the calls trap or panic. None of this takes the
instance or the handle of a function away: the next call finds the store that the calls before it have left, and does
there what `Ends` says. The main statement is `calls_end`.
-/

namespace DecoderHost

variable {σ α : Type}

/-- A call of a function on a bench, with a trap given back as an error or not. -/
structure BenchCall where
  function : String
  arguments : List UInt64
  tries : Bool

/-- From a store, calls lead to another one: each does what it does in the store that the one before it left. -/
inductive Guest.Leads (g : Guest σ) : Store σ → List BenchCall → Store σ → Prop
  | nil {s : Store σ} : Leads g s [] s
  | cons {s t : Store σ} {c : BenchCall} {calls : List BenchCall} {e : CallEnd σ}
    (h : g.Ends c.function c.arguments s e) (hrest : Leads g e.store calls t) : Leads g s (c :: calls) t

namespace Bench

/-- The bench after a call on the instance with a name. -/
def called (d : Decoder σ) (name : String) (bench : Bench σ) (c : BenchCall) : Bench σ :=
  if c.tries then (bench.tryCall d name c.function c.arguments).2
  else (bench.call d name c.function c.arguments).2

/-- The bench after calls on the instance with a name. -/
def after (d : Decoder σ) (name : String) (calls : List BenchCall) (bench : Bench σ) : Bench σ :=
  calls.foldl (called d name) bench

end Bench

/-- An instance after a call of a function, with the store that the call left. -/
def BenchInstance.left (i : BenchInstance σ) (g : Guest σ) (function : String) (s : Store σ) : BenchInstance σ :=
  { i.used g function with store := s }

/-! ## Handles -/

@[simp] theorem BenchInstance.handle_left_self (i : BenchInstance σ) (g : Guest σ) (function : String)
    (s : Store σ) : (i.left g function s).handle function = (i.handle function).used g := by
  simp [left, used, handle]

theorem BenchInstance.handle_left_of_ne (i : BenchInstance σ) (g : Guest σ) {function other : String}
    (h : other ≠ function) (s : Store σ) : (i.left g function s).handle other = i.handle other := by
  simp only [left, used, handle, Named.get?_put_of_ne i.handles _ h]

/-- **The handles of an instance are in order.** Each is kept under the name of its function, and is resolved only if
there is that function. -/
structure BenchInstance.InOrder (i : BenchInstance σ) (g : Guest σ) : Prop where
  name : ∀ function, (i.handle function).name = function
  resolved : ∀ function, (i.handle function).isResolved → g.hasFunction function

/-- An instance without handles is in order. -/
theorem BenchInstance.inOrder_fresh (s : Store σ) (g : Guest σ) : ({ store := s } : BenchInstance σ).InOrder g where
  name _ := rfl
  resolved _ h := nomatch h

theorem BenchInstance.InOrder.left {i : BenchInstance σ} {g : Guest σ} (h : i.InOrder g) (function : String)
    (s : Store σ) : (i.left g function s).InOrder g where
  name other := by
    by_cases hother : other = function
    · subst hother
      rw [handle_left_self]
      exact h.name other
    · rw [handle_left_of_ne i g hother]
      exact h.name other
  resolved other hresolved := by
    by_cases hother : other = function
    · subst hother
      simp only [handle_left_self, FunctionHandle.used, h.name, Bool.or_eq_true] at hresolved
      exact hresolved.elim (h.resolved other) id
    · rw [handle_left_of_ne i g hother] at hresolved
      exact h.resolved other hresolved

/-- A handle that was used is resolved exactly if there is the function. -/
theorem BenchInstance.InOrder.isResolved_left {i : BenchInstance σ} {g : Guest σ} (h : i.InOrder g)
    (function : String) (s : Store σ) :
    ((i.left g function s).handle function).isResolved = g.hasFunction function := by
  rw [handle_left_self, FunctionHandle.used, h.name]
  by_cases hresolved : (i.handle function).isResolved
  · rw [h.resolved function hresolved, Bool.or_true]
  · rw [Bool.not_eq_true] at hresolved
    rw [hresolved, Bool.false_or]

namespace Bench

variable {d : Decoder σ} {bench : Bench σ} {name function : String} {i : BenchInstance σ}
  {arguments : List UInt64} {e : CallEnd σ}

/-! ## One call -/

/-- The bench with an instance in the place of the one that has a name, in the surroundings as it has left them. -/
def placed (bench : Bench σ) (name : String) (i : BenchInstance σ) : Bench σ where
  pool := bench.pool.within i.store.surroundings
  instances := bench.instances.put name i

/-- The store of an instance as a call finds it: it comes to the surroundings of the bench. -/
def found (bench : Bench σ) (i : BenchInstance σ) : Store σ := i.store.within bench.pool.surroundings

/-- A call finds an instance as the call before has left it. -/
@[simp] theorem found_placed (bench : Bench σ) (name : String) (i : BenchInstance σ) :
    (bench.placed name i).found i = i.store := rfl

theorem use_eq (h : bench.instances.get? name = some i) {m : Host σ α} {outcome : Except Stop α} {s : Store σ}
    {events : Array Event} (hrun : m.run { store := bench.found i } = (outcome, ⟨s, events⟩)) :
    bench.use d name function m =
      (some ⟨outcome.mapError .stopped, events⟩, bench.placed name (i.left d.guest function s)) := by
  have hrun : m { store := (i.used d.guest function).store.within bench.pool.surroundings } =
      (outcome, ⟨s, events⟩) := hrun
  simp only [use, h, hrun]
  cases outcome <;> rfl

theorem tryCall_eq (h : bench.instances.get? name = some i)
    (he : d.guest.Ends function arguments (bench.found i) e) :
    bench.tryCall d name function arguments =
      (some ⟨e.tried.mapError .stopped, #[]⟩, bench.placed name (i.left d.guest function e.store)) :=
  use_eq h (he.run_tryCall #[])

theorem call_eq (h : bench.instances.get? name = some i)
    (he : d.guest.Ends function arguments (bench.found i) e) :
    bench.call d name function arguments =
      (some ⟨e.called.mapError .stopped, #[]⟩, bench.placed name (i.left d.guest function e.store)) :=
  use_eq h (he.run_call #[])

/-- Whether a call is tried or not, it leaves the same bench. -/
theorem called_eq {c : BenchCall} (h : bench.instances.get? name = some i)
    (he : d.guest.Ends c.function c.arguments (bench.found i) e) :
    bench.called d name c = bench.placed name (i.left d.guest c.function e.store) := by
  unfold called
  split
  · rw [tryCall_eq h he]
  · rw [call_eq h he]

/-! ## Calls one after another -/

/-- Calls leave the instance on the bench, with the store to which they lead, and nothing else changes but the
surroundings. -/
theorem after_calls (h : bench.instances.get? name = some i) (calls : List BenchCall) :
    ∃ j, d.guest.Leads (bench.found i) calls ((bench.after d name calls).found j) ∧
      (bench.after d name calls).instances.get? name = some j ∧ (i.InOrder d.guest → j.InOrder d.guest) ∧
      (∃ left, (bench.after d name calls).pool = bench.pool.within left) ∧
      ∀ other ≠ name, (bench.after d name calls).instances.get? other = bench.instances.get? other := by
  induction calls generalizing bench i with
  | nil => exact ⟨i, .nil, h, id, ⟨_, rfl⟩, fun _ _ => rfl⟩
  | cons c calls ih =>
    obtain ⟨e, he⟩ := d.guest.exists_ends c.function c.arguments (bench.found i)
    have hcalled := called_eq h he
    have hleft : (bench.called d name c).instances.get? name = some (i.left d.guest c.function e.store) := by
      rw [hcalled]
      exact Named.get?_put_self ..
    have hfound : (bench.called d name c).found (i.left d.guest c.function e.store) = e.store := by
      rw [hcalled, found_placed]
      rfl
    obtain ⟨j, hleads, hget, horder, ⟨left, hpool⟩, hothers⟩ := ih hleft
    rw [hfound] at hleads
    refine ⟨j, .cons he hleads, hget, fun hi => horder (hi.left ..), ⟨left, ?_⟩, fun other hother => ?_⟩
    · rw [after, List.foldl_cons, ← after, hpool, hcalled]
      rfl
    · rw [after, List.foldl_cons, ← after, hothers other hother, hcalled]
      exact Named.get?_put_of_ne _ _ hother

/-- **How a call ends.** Whatever was called before, and whether that trapped or panicked or not, a call does exactly
one of the things that `Ends` names, in the store to which the calls before it lead. The function is run as often as
that says. What the host answers, and the store that is left, are those of the end; a host that does not try the call
panics at a trap with the wording of the error. The instance stays on the bench, its handles stay in order, so that
that of the function is resolved if there is the function, and no other instance changes. The first call finds the
surroundings of the bench, and the last one leaves them to it. -/
theorem calls_end (h : bench.instances.get? name = some i) (calls : List BenchCall) (function : String)
    (arguments : List UInt64) :
    ∃ (s : Store σ) (e : CallEnd σ) (j : BenchInstance σ) (later : Bench σ),
      d.guest.Leads (bench.found i) calls s ∧
      (∀ e', d.guest.Ends function arguments s e' ↔ e' = e) ∧
      d.guest.made function arguments s = e.runs.map (Prod.mk function) ∧
      (bench.after d name calls).tryCall d name function arguments =
        (some ⟨e.tried.mapError .stopped, #[]⟩, later) ∧
      (bench.after d name calls).call d name function arguments =
        (some ⟨e.called.mapError .stopped, #[]⟩, later) ∧
      (∀ error, e.answer = .ok (.error error) → ∃ p, e.called = .error (.panic p) ∧ p.message = error.message) ∧
      later.instances.get? name = some j ∧ j.store = e.store ∧
      (i.InOrder d.guest →
        j.InOrder d.guest ∧ (j.handle function).isResolved = d.guest.hasFunction function) ∧
      later.pool = bench.pool.within e.store.surroundings ∧
      ∀ other ≠ name, later.instances.get? other = bench.instances.get? other := by
  obtain ⟨j, hleads, hget, horder, ⟨left, hpool⟩, hothers⟩ := after_calls (d := d) h calls
  obtain ⟨e, he⟩ := d.guest.exists_ends function arguments ((bench.after d name calls).found j)
  refine ⟨_, e, j.left d.guest function e.store, _, hleads, fun e' => ⟨fun he' => he'.unique he, fun h => h ▸ he⟩,
    he.made_eq, tryCall_eq hget he, call_eq hget he, ?_, Named.get?_put_self .., rfl, ?_, ?_, ?_⟩
  · intro error herror
    exact ⟨.callFailed error, by rw [CallEnd.called, herror], rfl⟩
  · intro hi
    exact ⟨(horder hi).left .., (horder hi).isResolved_left ..⟩
  · show (bench.after d name calls).pool.within e.store.surroundings = bench.pool.within e.store.surroundings
    rw [hpool]
    rfl
  · intro other hother
    exact (Named.get?_put_of_ne _ _ hother).trans (hothers other hother)

/-- A decoder whose module is the probe. -/
def probing : Decoder UInt32 where
  engine := { config := {}, cacheDir := none }
  module := { contentHash := "", guest := Probe.guest }

/-- A bench with one probe that was not called yet. -/
def probed : Bench UInt32 where
  pool := { capacity := none, inUse := 1 }
  instances := [("a", { store := ⟨Memory.tiny, 1, 0, {}⟩ })]

/-- Four calls, each of which fails in its own way. The third has counted before it panics. -/
def failing : List BenchCall :=
  [⟨"add", [1], true⟩, ⟨"float", [0], false⟩, ⟨"double_result", [0], true⟩, ⟨"boom", [0], false⟩]

/-- After calls that failed the count is read through the same instance, and the handle for it is resolved. -/
theorem probed_calls_end :
    ∃ (j : BenchInstance UInt32) (later : Bench UInt32),
      (probed.after probing "a" failing).tryCall probing "a" "calls" [] = (some ⟨.ok (.ok 1), #[]⟩, later) ∧
      later.instances.get? "a" = some j ∧ (j.handle "calls").isResolved := by
  obtain ⟨s, e, j, later, -, -, -, htry, -, -, hget, -, hresolved, -, -⟩ :=
    calls_end (d := probing) (show probed.instances.get? "a" = some _ from rfl) failing "calls" []
  have hcount : ((probed.after probing "a" failing).tryCall probing "a" "calls" []).1 =
      some ⟨.ok (.ok 1), #[]⟩ := by with_unfolding_all rfl
  refine ⟨j, later, Prod.ext hcount (by rw [htry]), hget, ?_⟩
  rw [(hresolved (BenchInstance.inOrder_fresh ..)).2]
  rfl

end Bench

end DecoderHost

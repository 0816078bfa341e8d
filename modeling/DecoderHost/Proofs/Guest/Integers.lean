import DecoderHost.Proofs.Guest.Recording

/-!
# Functions of integers

A call goes wrong in the host if the arguments do not fit the function, or its result is no integer. Of a
function that takes a known number of integers and gives an integer or nothing, only traps remain, and a host
that tries the call is told of these.
-/

namespace DecoderHost

variable {σ : Type}

/-- The values that cross the boundary as numbers. -/
def Value.IsInteger : Value → Prop
  | .i32 _ | .i64 _ => True
  | .f32 _ | .f64 _ | .v128 _ | .reference _ => False

namespace Guest

/-- A function that, if it is exported at all, takes `count` integers and gives an integer or nothing. -/
structure TakesIntegers (g : Guest σ) (name : String) (count : Nat) : Prop where
  parameters : ∀ signature, g.function? name = some signature →
    signature.parameters.length = count ∧ ∀ type ∈ signature.parameters, type = .i32 ∨ type = .i64
  results : ∀ arguments s results t, g.invoke name arguments s = (.ok results, t) →
    ∀ value ∈ results.head?, value.IsInteger

variable {g : Guest σ} {name : String} {count : Nat}

theorem TakesIntegers.exists_prepare (h : g.TakesIntegers name count) (hhas : g.hasFunction name)
    {arguments : List UInt64} (hlength : arguments.length = count) :
    ∃ values, g.prepare name arguments = .ok values := by
  obtain ⟨signature, hsignature⟩ := Option.isSome_iff_exists.mp hhas
  obtain ⟨hparameters, htypes⟩ := h.parameters signature hsignature
  obtain ⟨values, hvalues⟩ := exists_lowers (hparameters.trans hlength.symm) htypes
  exact ⟨values, prepare_eq_ok.mpr ⟨signature, hsignature, hvalues⟩⟩

theorem exists_lift (name : String) {results : List Value}
    (h : ∀ value ∈ results.head?, value.IsInteger) :
    ∃ number, lift name results = .ok number := by
  rcases results with _ | ⟨value, rest⟩
  · exact ⟨0, rfl⟩
  · have hvalue : value.IsInteger := h value rfl
    cases value with
    | i32 bits => exact ⟨bits.toUInt64, rfl⟩
    | i64 bits => exact ⟨bits, rfl⟩
    | f32 | f64 | v128 | reference => exact hvalue.elim

/-- Such a function is called without a panic, even if it traps. -/
theorem TakesIntegers.run_tryCall (h : g.TakesIntegers name count) (hhas : g.hasFunction name)
    {arguments : List UInt64} (hlength : arguments.length = count) (s : Scene σ) :
    ∃ answer t, (g.tryCall name arguments).run s = (.ok answer, t) := by
  obtain ⟨values, hvalues⟩ := h.exists_prepare hhas hlength
  rcases hinvoke : g.invoke name values s.store with ⟨trap | results, u⟩
  · exact ⟨.error (trapError name trap), ⟨u, s.events⟩, by simp [Host.run, tryCall, hvalues, hinvoke]⟩
  · obtain ⟨number, hnumber⟩ := exists_lift name (h.results _ _ _ _ hinvoke)
    exact ⟨.ok number, ⟨u, s.events⟩, by simp [Host.run, tryCall, hvalues, hinvoke, hnumber]⟩

theorem TakesIntegers.answer_eq_ok {c : Call} (h : g.TakesIntegers c.name count)
    {s t : Scene (σ × List Call)} (hmakes : g.Makes s c t) :
    c.answer = .ok (match c.trap? with
      | some trap => .error (trapError c.name trap)
      | none => .ok (c.returned?.getD 0)) := by
  have hresults := h.results c.arguments (s.store.map Prod.fst)
  rw [hmakes.invoke] at hresults
  unfold Call.answer Call.trap? Call.returned?
  cases houtcome : c.outcome with
  | error trap => rfl
  | ok results =>
    obtain ⟨number, hnumber⟩ := exists_lift c.name (hresults results _ (by rw [houtcome]))
    simp [hnumber, Except.toOption]

end Guest

end DecoderHost

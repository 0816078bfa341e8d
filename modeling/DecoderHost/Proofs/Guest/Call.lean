import DecoderHost.Guest.Call
import DecoderHost.Proofs.Host.Run
import DecoderHost.Proofs.Guest.Code

/-!
# Running calls

Which values the arguments of a call come to, and how a look-up and a call run in a scene. A function whose parameters
are all words of 32 bits is given the words that the host means.
-/

namespace DecoderHost

variable {σ α : Type}

/-- The types of the values that cross the boundary as numbers. -/
def ValueType.IsInteger (type : ValueType) : Prop := type = .i32 ∨ type = .i64

instance (type : ValueType) : Decidable type.IsInteger := inferInstanceAs (Decidable (_ ∨ _))

namespace Guest

/-! ## Arguments as values -/

/-- The arguments of a call as values: what does not fit a parameter of 32 bits is cut off. -/
inductive Lowers : List ValueType → List UInt64 → List Value → Prop
  | nil : Lowers [] [] []
  | i32 {types : List ValueType} {arguments : List UInt64} {values : List Value} {argument : UInt64} {bits : UInt32}
    (hbits : bits.toNat = argument.toNat % 4294967296) (h : Lowers types arguments values) :
    Lowers (.i32 :: types) (argument :: arguments) (.i32 bits :: values)
  | i64 {types : List ValueType} {arguments : List UInt64} {values : List Value} {argument : UInt64}
    (h : Lowers types arguments values) : Lowers (.i64 :: types) (argument :: arguments) (.i64 argument :: values)

section

variable {types : List ValueType} {arguments : List UInt64} {values : List Value}

theorem Lowers.length_eq (h : Lowers types arguments values) : types.length = arguments.length := by
  induction h with
  | nil => rfl
  | i32 _ _ ih | i64 _ ih => simp only [List.length_cons, ih]

theorem Lowers.isInteger (h : Lowers types arguments values) : ∀ type ∈ types, type.IsInteger := by
  induction h with
  | nil => simp
  | i32 _ _ ih => exact List.forall_mem_cons.mpr ⟨.inl rfl, ih⟩
  | i64 _ ih => exact List.forall_mem_cons.mpr ⟨.inr rfl, ih⟩

theorem exists_lowers (hlength : types.length = arguments.length) (htypes : ∀ type ∈ types, type.IsInteger) :
    ∃ values, Lowers types arguments values := by
  induction types generalizing arguments with
  | nil =>
    obtain rfl := List.eq_nil_of_length_eq_zero hlength.symm
    exact ⟨[], .nil⟩
  | cons type types ih =>
    cases arguments with
    | nil => simp at hlength
    | cons argument arguments =>
      obtain ⟨htype, htypes⟩ := List.forall_mem_cons.mp htypes
      obtain ⟨values, hvalues⟩ := ih (Nat.succ.inj hlength) htypes
      rcases htype with rfl | rfl
      · exact ⟨.i32 argument.toUInt32 :: values, .i32 (UInt64.toNat_toUInt32 argument) hvalues⟩
      · exact ⟨_, .i64 hvalues⟩

theorem Lowers.lower_eq (h : Lowers types arguments values) (name : String) :
    lower name types arguments = .ok values := by
  induction h with
  | nil => rfl
  | @i32 _ _ _ argument bits hbits _ ih =>
    obtain rfl : bits = argument.toUInt32 := UInt32.toNat_inj.mp (by rw [hbits, UInt64.toNat_toUInt32])
    simp only [lower, lowerOne, ih]
  | i64 _ ih => simp only [lower, lowerOne, ih]

/-- The first parameter that is no integer is the one that is reported. -/
theorem lower_of_first (name : String) {before after : List ValueType} {type : ValueType}
    (hlength : (before ++ type :: after).length = arguments.length) (hbefore : ∀ t ∈ before, t.IsInteger)
    (htype : ¬ type.IsInteger) :
    lower name (before ++ type :: after) arguments = .error (.parameterType name type) := by
  induction before generalizing arguments with
  | nil =>
    cases arguments with
    | nil => simp at hlength
    | cons argument arguments =>
      cases type with
      | i32 => exact absurd (.inl rfl) htype
      | i64 => exact absurd (.inr rfl) htype
      | f32 | f64 | v128 | reference => rfl
  | cons first before ih =>
    cases arguments with
    | nil => simp at hlength
    | cons argument arguments =>
      obtain ⟨hfirst, hbefore⟩ := List.forall_mem_cons.mp hbefore
      have hrest := ih (Nat.succ.inj hlength) hbefore
      rcases hfirst with rfl | rfl <;> simp only [List.cons_append, lower, lowerOne, hrest]

/-- Types of integers only, or a first one that is none. -/
theorem isInteger_or_first (types : List ValueType) : (∀ type ∈ types, type.IsInteger) ∨
    ∃ before type after, types = before ++ type :: after ∧ (∀ t ∈ before, t.IsInteger) ∧ ¬ type.IsInteger := by
  cases hfirst : types.find? fun type => ¬ type.IsInteger with
  | none => exact .inl (by simpa using hfirst)
  | some type =>
    obtain ⟨htype, before, after, htypes, hbefore⟩ := List.find?_eq_some_iff_append.mp hfirst
    exact .inr ⟨before, type, after, htypes, by simpa using hbefore, by simpa using htype⟩

/-- As many arguments as there are parameters come to these values or to none. -/
theorem lower_eq_ok_iff {name : String} (hlength : types.length = arguments.length) :
    lower name types arguments = .ok values ↔ Lowers types arguments values := by
  refine ⟨fun h => ?_, fun h => h.lower_eq name⟩
  rcases isInteger_or_first types with htypes | ⟨before, type, after, rfl, hbefore, htype⟩
  · obtain ⟨found, hfound⟩ := exists_lowers hlength htypes
    obtain rfl : found = values := Except.ok.inj ((hfound.lower_eq name).symm.trans h)
    exact hfound
  · rw [lower_of_first name hlength hbefore htype] at h
    cases h

/-- A call is prepared only if the function is there and takes the arguments. -/
theorem prepare_eq_ok {g : Guest σ} {name : String} :
    g.prepare name arguments = .ok values ↔
      ∃ signature, g.function? name = some signature ∧ Lowers signature.parameters arguments values := by
  unfold prepare
  cases g.function? name with
  | none => simp
  | some signature =>
    by_cases hlength : signature.parameters.length = arguments.length
    · simp only [if_pos hlength, lower_eq_ok_iff hlength, Option.some.injEq, exists_eq_left']
    · simp only [if_neg hlength, reduceCtorEq, Option.some.injEq, exists_eq_left', false_iff]
      exact fun h => hlength h.length_eq

/-- A call is refused as it is prepared for one of three reasons. -/
theorem prepare_eq_error {g : Guest σ} {name : String} {p : Panic} (h : g.prepare name arguments = .error p) :
    p = .missingFunction name ∨ (∃ expected, p = .argumentCount name expected arguments.length) ∨
      ∃ type, p = .parameterType name type := by
  unfold prepare at h
  cases hsignature : g.function? name with
  | none =>
    rw [hsignature] at h
    exact .inl (Except.error.inj h).symm
  | some signature =>
    obtain ⟨parameters, results⟩ := signature
    simp only [hsignature] at h
    by_cases hlength : parameters.length = arguments.length
    · rw [if_pos hlength] at h
      rcases isInteger_or_first parameters with htypes | ⟨before, type, after, rfl, hbefore, htype⟩
      · obtain ⟨values, hvalues⟩ := exists_lowers hlength htypes
        rw [hvalues.lower_eq name] at h
        cases h
      · rw [lower_of_first name hlength hbefore htype] at h
        exact .inr (.inr ⟨type, (Except.error.inj h).symm⟩)
    · rw [if_neg hlength] at h
      exact .inr (.inl ⟨parameters.length, (Except.error.inj h).symm⟩)

end

/-! ## Calls and look-ups -/

theorem run_tryCall_unprepared {g : Guest σ} {name : String} {arguments : List UInt64} {p : Panic}
    (h : g.prepare name arguments = .error p) (s : Scene σ) :
    (g.tryCall name arguments).run s = (.error (.panic p), s) := by
  simp only [Host.run, tryCall, h]

theorem run_resolve (g : Guest σ) (name : String) (s : Scene σ) :
    (g.resolve name).run s =
      if g.hasFunction name then (.ok (), s) else (.error (.panic (.missingFunction name)), s) := by
  unfold resolve
  split <;> rfl

theorem run_resolve_of_hasFunction {g : Guest σ} {name : String} (h : g.hasFunction name) (s : Scene σ) :
    (g.resolve name).run s = (.ok (), s) := by
  rw [run_resolve, if_pos h]

/-- What follows a look-up gives an answer only if the function is there, and runs in the same scene. -/
theorem resolve_bind_eq_ok {g : Guest σ} {name : String} {f : Unit → Host σ α} {s t : Scene σ} {a : α} :
    (g.resolve name >>= f).run s = (.ok a, t) ↔ g.hasFunction name ∧ (f ()).run s = (.ok a, t) := by
  rw [Host.run_bind, run_resolve]
  by_cases hhas : g.hasFunction name
  · simp only [hhas, if_true, true_and]
  · simp [hhas]

theorem run_call (g : Guest σ) (name : String) (arguments : List UInt64) (s : Scene σ) :
    (g.call name arguments).run s = match (g.tryCall name arguments).run s with
      | (.ok (.ok number), t) => (.ok number, t)
      | (.ok (.error e), t) => (.error (.panic (.callFailed e)), t)
      | (.error stop, t) => (.error stop, t) := by
  rw [call, Host.run_bind]
  rcases (g.tryCall name arguments).run s with ⟨stop | (e | number), t⟩ <;> rfl

/-! ## Calls with words -/

theorem lowers_words (words : List UInt32) :
    Lowers (List.replicate words.length .i32) (words.map UInt32.toUInt64) (words.map Value.i32) := by
  induction words with
  | nil => exact .nil
  | cons word words ih =>
    rw [List.length_cons, List.replicate_succ, List.map_cons, List.map_cons]
    refine .i32 ?_ ih
    rw [UInt32.toNat_toUInt64]
    exact (Nat.mod_eq_of_lt word.toNat_lt).symm

/-- A function that takes words of 32 bits is given the words themselves. -/
theorem prepare_words {g : Guest σ} {name : String} {words : List UInt32} {results : List ValueType}
    (h : g.function? name = some ⟨List.replicate words.length .i32, results⟩) :
    g.prepare name (words.map UInt32.toUInt64) = .ok (words.map Value.i32) :=
  prepare_eq_ok.mpr ⟨_, h, lowers_words words⟩

variable {g : Guest σ} {name : String} (words : List UInt32) {results : List ValueType}

theorem run_tryCall_words (h : g.function? name = some ⟨List.replicate words.length .i32, results⟩)
    {s : Scene σ} {t : Store σ} {values : List Value}
    (hinvoke : (g.invoke name (words.map Value.i32)).run s.store = (.ok values, t)) {number : UInt64}
    (hlift : lift name values = .ok number) :
    (g.tryCall name (words.map UInt32.toUInt64)).run s = (.ok (.ok number), { s with store := t }) := by
  have hinvoke : g.invoke name (words.map Value.i32) s.store = (.ok values, t) := hinvoke
  simp only [Host.run, tryCall, prepare_words h, hinvoke, hlift]

theorem run_call_words (h : g.function? name = some ⟨List.replicate words.length .i32, results⟩)
    {s : Scene σ} {t : Store σ} {values : List Value}
    (hinvoke : (g.invoke name (words.map Value.i32)).run s.store = (.ok values, t)) {number : UInt64}
    (hlift : lift name values = .ok number) :
    (g.call name (words.map UInt32.toUInt64)).run s = (.ok number, { s with store := t }) := by
  rw [run_call, run_tryCall_words words h hinvoke hlift]

theorem run_call_words_trap (h : g.function? name = some ⟨List.replicate words.length .i32, results⟩)
    {s : Scene σ} {t : Store σ} {trap : Trap}
    (hinvoke : (g.invoke name (words.map Value.i32)).run s.store = (.error trap, t)) :
    (g.call name (words.map UInt32.toUInt64)).run s =
      (.error (.panic (.callFailed (trapError name trap))), { s with store := t }) := by
  have hinvoke : g.invoke name (words.map Value.i32) s.store = (.error trap, t) := hinvoke
  have htry : (g.tryCall name (words.map UInt32.toUInt64)).run s =
      (.ok (.error (trapError name trap)), { s with store := t }) := by
    simp only [Host.run, tryCall, prepare_words h, hinvoke]
  rw [run_call, htry]

end Guest

end DecoderHost

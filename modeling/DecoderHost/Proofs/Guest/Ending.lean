import DecoderHost.Proofs.Guest.Integers

/-!
# What a call does

A host that calls a function does the first of these that applies. It panics if there is no such function, if the
function takes another number of arguments, or if some parameter is no integer. Else it runs the function, once, and
takes what comes of it for its answer. `Ends` has one constructor for each of these and says of each what was run and
what store is left. One of them always applies and never two, and the host does what it says.
-/

namespace DecoderHost

variable {σ : Type}

namespace Guest

/-- What the host answers when a function was run: a trap is given back with the name of the function, and the first
result is taken for a number without regard to its sign. -/
inductive Answers (name : String) : Except Trap (List Value) → Except Panic (Except HostError UInt64) → Prop
  | trapped (trap : Trap) :
    Answers name (.error trap) (.ok (.error (.trap ("`" ++ name ++ "` trapped: " ++ trap.message))))
  | nothing : Answers name (.ok []) (.ok (.ok 0))
  | i32 {bits : UInt32} {rest : List Value} {number : UInt64} (hnumber : number.toNat = bits.toNat) :
    Answers name (.ok (.i32 bits :: rest)) (.ok (.ok number))
  | i64 {bits : UInt64} {rest : List Value} : Answers name (.ok (.i64 bits :: rest)) (.ok (.ok bits))
  | other {value : Value} {rest : List Value} (h : ¬ value.IsInteger) :
    Answers name (.ok (value :: rest)) (.error (.resultType name value))

end Guest

/-- The end of a call: what the host answers or how it panics, the argument values of the runs of the function, and the
store that is left. -/
structure CallEnd (σ : Type) where
  answer : Except Panic (Except HostError UInt64)
  runs : List (List Value)
  store : Store σ

/-- **What a call does.** -/
inductive Guest.Ends (g : Guest σ) (name : String) (arguments : List UInt64) (s : Store σ) : CallEnd σ → Prop
  | missing (h : g.function? name = none) : Ends g name arguments s ⟨.error (.missingFunction name), [], s⟩
  | count {signature : Signature} (h : g.function? name = some signature)
    (hcount : signature.parameters.length ≠ arguments.length) :
    Ends g name arguments s ⟨.error (.argumentCount name signature.parameters.length arguments.length), [], s⟩
  | parameter {before after results : List ValueType} {type : ValueType}
    (h : g.function? name = some ⟨before ++ type :: after, results⟩)
    (hcount : (before ++ type :: after).length = arguments.length) (hbefore : ∀ t ∈ before, t.IsInteger)
    (htype : ¬ type.IsInteger) : Ends g name arguments s ⟨.error (.parameterType name type), [], s⟩
  | ran {signature : Signature} {values : List Value} {outcome : Except Trap (List Value)} {t : Store σ}
    {answer : Except Panic (Except HostError UInt64)} (h : g.function? name = some signature)
    (hvalues : Guest.Lowers signature.parameters arguments values) (hinvoke : g.invoke name values s = (outcome, t))
    (hanswer : Guest.Answers name outcome answer) : Ends g name arguments s ⟨answer, [values], t⟩

namespace CallEnd

/-- The end as a host shows it that takes traps for errors. -/
def tried (e : CallEnd σ) : Except Stop (Except HostError UInt64) := e.answer.mapError .panic

/-- The end as a host shows it that takes traps for panics. -/
def called (e : CallEnd σ) : Except Stop UInt64 :=
  match e.answer with
  | .error p => .error (.panic p)
  | .ok (.error error) => .error (.panic (.callFailed error))
  | .ok (.ok number) => .ok number

end CallEnd

namespace Guest

variable {g : Guest σ} {name : String} {arguments : List UInt64} {values : List Value} {s : Store σ} {e : CallEnd σ}

/-! ## One end -/

theorem exists_answers (name : String) (outcome : Except Trap (List Value)) :
    ∃ answer, Answers name outcome answer := by
  rcases outcome with trap | _ | ⟨value, rest⟩
  · exact ⟨_, .trapped trap⟩
  · exact ⟨_, .nothing⟩
  · cases value with
    | i32 bits => exact ⟨.ok (.ok bits.toUInt64), .i32 (UInt32.toNat_toUInt64 bits)⟩
    | i64 bits => exact ⟨_, .i64⟩
    | f32 | f64 | v128 | reference => exact ⟨_, .other id⟩

/-- A call does at least one of these things. -/
theorem exists_ends (g : Guest σ) (name : String) (arguments : List UInt64) (s : Store σ) :
    ∃ e, g.Ends name arguments s e := by
  cases hsignature : g.function? name with
  | none => exact ⟨_, .missing hsignature⟩
  | some signature =>
    by_cases hcount : signature.parameters.length = arguments.length
    · obtain ⟨parameters, results⟩ := signature
      rcases isInteger_or_first parameters with htypes | ⟨before, type, after, rfl, hbefore, htype⟩
      · obtain ⟨values, hvalues⟩ := exists_lowers hcount htypes
        obtain ⟨answer, hanswer⟩ := exists_answers name (g.invoke name values s).1
        exact ⟨_, .ran hsignature hvalues rfl hanswer⟩
      · exact ⟨_, .parameter hsignature hcount hbefore htype⟩
    · exact ⟨_, .count hsignature hcount⟩

/-- The calls that are made when a call is tried, each with its argument values. -/
def made (g : Guest σ) (name : String) (arguments : List UInt64) (s : Store σ) : List (String × List Value) :=
  ((g.recorded.tryCall name arguments).run (Scene.recorded ⟨s, #[]⟩)).2.calls.map fun c => (c.name, c.arguments)

theorem made_of_error {p : Panic} (h : g.prepare name arguments = .error p) : g.made name arguments s = [] := by
  have hrecorded : g.recorded.prepare name arguments = .error p := h
  rw [made, run_tryCall_unprepared hrecorded]
  rfl

theorem made_of_ok (h : g.prepare name arguments = .ok values) : g.made name arguments s = [(name, values)] := by
  obtain ⟨c, t, hmakes, hname, harguments, hrun⟩ := run_tryCall_recorded h (Scene.recorded ⟨s, #[]⟩)
  rw [made, hrun, hmakes.calls, ← hname, ← harguments]
  rfl

theorem Answers.run_tryCall {outcome : Except Trap (List Value)} {t : Store σ}
    {answer : Except Panic (Except HostError UInt64)} (h : Answers name outcome answer)
    (hprepare : g.prepare name arguments = .ok values) (hinvoke : g.invoke name values s = (outcome, t))
    (events : Array Event) :
    (g.tryCall name arguments).run ⟨s, events⟩ = (answer.mapError .panic, ⟨t, events⟩) := by
  cases h with
  | trapped | nothing | i64 =>
    simp only [Host.run, tryCall, hprepare, hinvoke]
    rfl
  | @i32 bits rest number hnumber =>
    obtain rfl : number = bits.toUInt64 := UInt64.toNat_inj.mp (by rw [hnumber, UInt32.toNat_toUInt64])
    simp only [Host.run, tryCall, hprepare, hinvoke]
    rfl
  | @other value rest hvalue =>
    simp only [Host.run, tryCall, hprepare, hinvoke]
    cases value with
    | i32 | i64 => exact absurd trivial hvalue
    | f32 | f64 | v128 | reference => rfl

/-- A call either is refused as it is prepared, and nothing is run, or its end is that of one run. -/
theorem Ends.prepared (h : g.Ends name arguments s e) :
    (∃ p, g.prepare name arguments = .error p ∧ e = ⟨.error p, [], s⟩) ∨
    ∃ values outcome t answer, g.prepare name arguments = .ok values ∧ g.invoke name values s = (outcome, t) ∧
      Answers name outcome answer ∧ e = ⟨answer, [values], t⟩ := by
  cases h with
  | missing h => exact .inl ⟨_, by simp only [prepare, h], rfl⟩
  | count h hcount => exact .inl ⟨_, by simp only [prepare, h, if_neg hcount], rfl⟩
  | parameter h hcount hbefore htype =>
    have hlower := lower_of_first name hcount hbefore htype
    exact .inl ⟨_, by simp only [prepare, h, if_pos hcount, hlower], rfl⟩
  | @ran signature values outcome t answer h hvalues hinvoke hanswer =>
    exact .inr ⟨values, outcome, t, answer, prepare_eq_ok.mpr ⟨signature, h, hvalues⟩, hinvoke, hanswer, rfl⟩

/-- A host that tries a call does what the end of the call says, and records no event. -/
theorem Ends.run_tryCall (h : g.Ends name arguments s e) (events : Array Event) :
    (g.tryCall name arguments).run ⟨s, events⟩ = (e.tried, ⟨e.store, events⟩) := by
  rcases h.prepared with ⟨p, hprepare, rfl⟩ | ⟨values, outcome, t, answer, hprepare, hinvoke, hanswer, rfl⟩
  · exact run_tryCall_unprepared hprepare _
  · exact hanswer.run_tryCall hprepare hinvoke events

/-- What is run when a call is tried is what the end of the call says. -/
theorem Ends.made_eq (h : g.Ends name arguments s e) : g.made name arguments s = e.runs.map (Prod.mk name) := by
  rcases h.prepared with ⟨p, hprepare, rfl⟩ | ⟨values, outcome, t, answer, hprepare, hinvoke, hanswer, rfl⟩
  · exact made_of_error hprepare
  · exact made_of_ok hprepare

/-- A host that calls without trying does the same, but for traps. -/
theorem Ends.run_call (h : g.Ends name arguments s e) (events : Array Event) :
    (g.call name arguments).run ⟨s, events⟩ = (e.called, ⟨e.store, events⟩) := by
  rw [Guest.run_call, h.run_tryCall, CallEnd.tried, CallEnd.called]
  rcases e.answer with p | (error | number) <;> rfl

/-- A call does at most one of these things. -/
theorem Ends.unique {e' : CallEnd σ} (h : g.Ends name arguments s e) (h' : g.Ends name arguments s e') : e = e' := by
  have hmade : e.runs.map (Prod.mk name) = e'.runs.map (Prod.mk name) := h.made_eq.symm.trans h'.made_eq
  have hrun := (h.run_tryCall #[]).symm.trans (h'.run_tryCall #[])
  obtain ⟨answer, runs, t⟩ := e
  obtain ⟨answer', runs', t'⟩ := e'
  obtain ⟨htried, hscene⟩ := Prod.mk.inj hrun
  obtain rfl : t = t' := congrArg Scene.store hscene
  obtain rfl : runs = runs' := by
    simpa [Function.comp_def] using congrArg (List.map Prod.snd) hmade
  cases answer with
  | error p =>
    cases answer' with
    | error p' =>
      obtain rfl : p = p' := Stop.panic.inj (Except.error.inj htried)
      rfl
    | ok _ => cases htried
  | ok reply =>
    cases answer' with
    | error _ => cases htried
    | ok reply' =>
      obtain rfl : reply = reply' := Except.ok.inj htried
      rfl

end Guest

end DecoderHost

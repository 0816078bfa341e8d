import DecoderHost.Proofs.Guest.Integers
import DecoderHost.Proofs.Session.Quiet

/-!
# Scratch memory is given back

One decode obtains up to three allocations, and has many places at which it may end: an allocation fails,
the guest traps, a function is missing or does not fit, a pointer leads out of the memory. Wherever it ends,
everything obtained is given back, the last first, by one call each; a release that traps is recorded and
changes nothing else. The main statement is `disassemble_gives_back`.

A decode is `Balanced`: it has released what it obtained when it ends. Its inner part is so because it is
quiet, and `Balanced.hold` carries this through one more allocation around it.
-/

namespace DecoderHost

variable {σ α : Type}

/-! ## Releases -/

namespace Session

variable {g : Guest σ} {a : Allocation}

/-- A release never stops the host. -/
theorem release_ok (hfits : g.TakesIntegers a.releaseFunction a.releaseArguments.length)
    (hhas : g.hasFunction a.releaseFunction) (s : Scene σ) :
    ∃ t, (release g a).run s = (.ok (), t) := by
  obtain ⟨answer, t, hrun⟩ := hfits.run_tryCall hhas rfl s
  rw [run_release, hrun]
  cases answer with
  | ok _ => exact ⟨t, rfl⟩
  | error e => exact ⟨_, rfl⟩

/-- A release is one call, and leaves an event behind exactly if it traps. -/
theorem release_recorded (hfits : g.TakesIntegers a.releaseFunction a.releaseArguments.length)
    (hhas : g.hasFunction a.releaseFunction) (s : Scene (σ × List Call)) :
    ∃ c t, (release g.recorded a).run s = (.ok (), t) ∧
      c.request = (a.releaseFunction, a.releaseArguments) ∧ t.calls = s.calls ++ [c] ∧
      t.events.toList = s.events.toList ++ (Release.warning? ⟨a, c⟩).toList := by
  obtain ⟨values, hvalues⟩ := hfits.exists_prepare hhas rfl
  obtain ⟨c, t, hmakes, hname, harguments, hrun⟩ := Guest.run_tryCall_recorded hvalues s
  have hrequest : c.request = (a.releaseFunction, a.releaseArguments) := by
    rw [Call.request, hname, harguments, Guest.numbers_of_prepare hvalues a.releaseArguments_lt]
  rw [run_release, hrun, Guest.TakesIntegers.answer_eq_ok (hname ▸ hfits) hmakes]
  cases htrap : c.trap? with
  | none =>
    refine ⟨c, t, rfl, hrequest, hmakes.calls, ?_⟩
    simp [Release.warning?, htrap, hmakes.events]
  | some trap =>
    refine ⟨c, _, rfl, hrequest, hmakes.calls, ?_⟩
    simp [Release.warning?, htrap, hmakes.events]

end Session

/-! ## Balanced computations -/

/-- A computation that, if it ends, has released what it obtained. It records the announcement of its panic,
and after it one event for each release that trapped. -/
def Host.Balanced (m : Host (σ × List Call) α) : Prop :=
  ∀ s, (m.run s).1 ≠ .error .stepsExhausted → ∃ calls releases,
    (m.run s).2.calls = s.calls ++ calls ∧ GivenBack calls releases ∧
    (m.run s).2.events.toList =
      s.events.toList ++ announced (m.run s).1 ++ releases.filterMap Release.warning?

/-- A computation that obtains an allocation by one call of the guest, for which a release is known to exist.
The address is the allocation's unless it counts as null. -/
def Host.Obtains (g : Guest σ) (m : Host (σ × List Call) UInt32) (allocation : UInt32 → Allocation)
    (isNull : UInt32 → Prop) [DecidablePred isNull] : Prop :=
  ∀ s, (∃ p, p.announcement? = none ∧ m.run s = (.error (.panic p), s)) ∨
    ∃ c t, g.Makes s c t ∧ ¬ c.IsRelease ∧
      (∀ address, g.hasFunction (allocation address).releaseFunction) ∧
      (c.acquired? = c.returned?.bind fun number =>
        if isNull number.toUInt32 then none else some (allocation number.toUInt32)) ∧
      m.run s = (c.result.map UInt64.toUInt32, t)

namespace Host

theorem Quiet.balanced {m : Host (σ × List Call) α} (h : Quiet m) : Balanced m := by
  intro s _
  obtain ⟨work, hcalls, hwork, hevents⟩ := h s
  exact ⟨work, [], hcalls, .of_work hwork, by simpa using hevents⟩

theorem run_resolve_call (g : Guest σ) (releaseFunction name : String) {arguments : List UInt64}
    (hsmall : ∀ a ∈ arguments, a.toNat < 4294967296) (s : Scene (σ × List Call)) :
    let m : Host (σ × List Call) UInt32 := do
      g.recorded.resolve releaseFunction
      return (← g.recorded.call name arguments).toUInt32
    (∃ p, p.announcement? = none ∧ m.run s = (.error (.panic p), s)) ∨
      ∃ c t, g.Makes s c t ∧ c.request = (name, arguments) ∧ g.hasFunction releaseFunction ∧
        m.run s = (c.result.map UInt64.toUInt32, t) := by
  intro m
  rw [run_bind, Guest.run_resolve]
  by_cases hhas : g.hasFunction releaseFunction
  · rw [if_pos (show g.recorded.hasFunction releaseFunction from hhas)]
    dsimp only
    rw [run_bind]
    rcases Guest.run_call_recorded g name hsmall s with
      ⟨p, hp, hrun⟩ | ⟨c, t, hmakes, hrequest, hrun⟩
    · exact .inl ⟨p, Guest.announcement?_of_prepare hp, by rw [hrun]⟩
    · refine .inr ⟨c, t, hmakes, hrequest, hhas, ?_⟩
      rw [hrun]
      cases c.result <;> rfl
  · rw [if_neg (show ¬ g.recorded.hasFunction releaseFunction from hhas)]
    exact .inl ⟨.missingFunction releaseFunction, rfl, rfl⟩

theorem obtains_malloc (g : Guest σ) {size : Nat} (hsize : size < 4294967296) :
    Obtains g (g.recorded.malloc size) .block fun address => address = 0 ∧ size ≠ 0 := by
  have hnumber : (UInt64.ofNat size).toNat = size := by
    rw [UInt64.toNat_ofNat']
    omega
  have hzero : UInt64.ofNat size = 0 ↔ size = 0 := by
    rw [← UInt64.toNat_inj, hnumber]
    rfl
  intro s
  rcases run_resolve_call g "free" "malloc" (Guest.size_lt hsize) s with h | ⟨c, t, hmakes, hrequest, hhas, hrun⟩
  · exact .inl h
  · have hname := Call.name_of_request hrequest
    refine .inr ⟨c, t, hmakes, by simp [Call.IsRelease, hname], fun _ => hhas, ?_, hrun⟩
    unfold Call.acquired?
    cases c.returned? with
    | none => rfl
    | some number =>
      by_cases hnull : number.toUInt32 = 0 <;> by_cases hs : size = 0 <;>
        simp [hname, hrequest, hnull, hs, hzero]

theorem obtains_csMalloc (g : Guest σ) (handle : UInt32) :
    Obtains g (g.recorded.csMalloc handle) .record fun address => address = 0 := by
  intro s
  rcases run_resolve_call g "cs_free" "cs_malloc" (Guest.words_lt [handle]) s with
    h | ⟨c, t, hmakes, hrequest, hhas, hrun⟩
  · exact .inl h
  · have hname := Call.name_of_request hrequest
    refine .inr ⟨c, t, hmakes, by simp [Call.IsRelease, hname], fun _ => hhas, ?_, hrun⟩
    unfold Call.acquired?
    cases c.returned? with
    | none => rfl
    | some number => by_cases hnull : number.toUInt32 = 0 <;> simp [hname, hnull]

/-- What is used and released afterwards ends as its use does. -/
theorem run_withAllocation {g : Guest σ} {a : Allocation} {body : Host (σ × List Call) α}
    (hfits : g.TakesIntegers a.releaseFunction a.releaseArguments.length)
    (hhas : g.hasFunction a.releaseFunction) {s t : Scene (σ × List Call)} {outcome : Except Stop α}
    (hbody : body.run s = (outcome, t)) (hends : outcome ≠ .error .stepsExhausted) :
    ∃ c u, (Session.withAllocation g.recorded a body).run s = (outcome, u) ∧
      c.request = (a.releaseFunction, a.releaseArguments) ∧ u.calls = t.calls ++ [c] ∧
      u.events.toList = t.events.toList ++ (Release.warning? ⟨a, c⟩).toList := by
  obtain ⟨c, u, hrun, hrequest, hcalls, hevents⟩ := Session.release_recorded hfits hhas t
  refine ⟨c, u, ?_, hrequest, hcalls, hevents⟩
  rw [Session.withAllocation, run_ensuring, hbody]
  rcases outcome with (p | _) | b
  · simp only [hrun]
  · exact absurd rfl hends
  · simp only [hrun]

/-- A balanced use of an allocation, and its release. -/
theorem Balanced.run_withAllocation {g : Guest σ} {a : Allocation} {body : Host (σ × List Call) α}
    (hbody : Balanced body) (hfits : g.TakesIntegers a.releaseFunction a.releaseArguments.length)
    (hhas : g.hasFunction a.releaseFunction) {s : Scene (σ × List Call)}
    (hends : ((Session.withAllocation g.recorded a body).run s).1 ≠ .error .stepsExhausted) :
    ∃ calls releases c, ((Session.withAllocation g.recorded a body).run s).2.calls = s.calls ++ calls ++ [c] ∧
      GivenBack calls releases ∧ c.request = (a.releaseFunction, a.releaseArguments) ∧
      ((Session.withAllocation g.recorded a body).run s).2.events.toList =
        s.events.toList ++ announced ((Session.withAllocation g.recorded a body).run s).1 ++
          (releases ++ [Release.mk a c]).filterMap Release.warning? := by
  rcases hrun : body.run s with ⟨outcome, t⟩
  have houtcome : outcome ≠ .error .stepsExhausted := by
    rintro rfl
    exact hends (by rw [Session.withAllocation, run_ensuring, hrun])
  obtain ⟨calls, releases, hcalls, hback, hevents⟩ := hbody s (by rw [hrun]; exact houtcome)
  obtain ⟨c, u, hhold, hrequest, hcalls', hevents'⟩ := Host.run_withAllocation hfits hhas hrun houtcome
  rw [hrun] at hcalls hevents
  rw [hhold]
  refine ⟨calls, releases, c, by rw [hcalls', hcalls], hback, hrequest, ?_⟩
  rw [hevents', hevents, List.filterMap_append, List.append_assoc]
  cases hwarning : Release.warning? ⟨a, c⟩ <;> simp [hwarning]

/-- Allocating, checking for the null address, and using the allocation until it is released. -/
theorem Balanced.hold {g : Guest σ} {m : Host (σ × List Call) UInt32}
    {allocation : UInt32 → Allocation} {isNull : UInt32 → Prop} [DecidablePred isNull] {p : Panic}
    {body : UInt32 → Host (σ × List Call) α} (hobtains : Obtains g m allocation isNull)
    (hfits : ∀ address, g.TakesIntegers (allocation address).releaseFunction
      (allocation address).releaseArguments.length)
    (hp : p.announcement? = none) (hbody : ∀ address, Balanced (body address)) :
    Balanced (do
      let address ← m
      if isNull address then
        Host.panic p
      Session.withAllocation g.recorded (allocation address) (body address)) := by
  intro s hends
  rcases hobtains s with ⟨q, hq, hrun⟩ | ⟨c, t, hmakes, hc, hhas, hacquired, hrun⟩
  · rw [run_bind, hrun]
    exact ⟨[], [], by simp, .of_work (by simp), by simp [announced, Stop.announced, hq]⟩
  · -- Nothing is held until the null check is passed.
    have nothing (hnone : c.acquired? = none) : GivenBack [c] [] :=
      .of_work (by simp [hc, hnone])
    rw [run_bind, hrun] at hends ⊢
    cases hresult : c.result with
    | error stop =>
      have hreturned : c.returned? = none := Call.returned?_of_result_error hresult
      have hannounced : stop.announced = [] := by
        have h := Guest.announced_result c
        rwa [hresult] at h
      exact ⟨[c], [], hmakes.calls, nothing (Call.acquired?_of_returned? hreturned),
        by simp [Except.map, announced, hannounced, hmakes.events]⟩
    | ok number =>
      rw [Call.result_eq_ok.mp hresult, Option.bind_some] at hacquired
      rw [hresult] at hends
      simp only [Except.map] at hends ⊢
      by_cases hnull : isNull number.toUInt32
      · rw [if_pos hnull] at hacquired ⊢
        rw [run_bind, run_panic]
        exact ⟨[c], [], hmakes.calls, nothing hacquired,
          by simp [announced, Stop.announced, hp, hmakes.events]⟩
      · rw [if_neg hnull] at hacquired hends ⊢
        obtain ⟨calls, releases, d, hcalls, hback, hrequest, hevents⟩ :=
          (hbody number.toUInt32).run_withAllocation (hfits _) (hhas _) hends
        refine ⟨c :: calls ++ [d], releases ++ [Release.mk (allocation number.toUInt32) d], ?_,
          hback.wrap (r := ⟨_, d⟩) hc hacquired hrequest, ?_⟩
        · simp [hcalls, hmakes.calls]
        · rw [hevents, hmakes.events]

/-- **Every decode is balanced.** -/
theorem Balanced.disassemble {g : Guest σ} (hfree : g.TakesIntegers "free" 1)
    (hcsFree : g.TakesIntegers "cs_free" 2) (handle : UInt32) (steps : Nat) (code : List UInt8) :
    Balanced (Session.disassemble g.recorded handle steps code) := by
  unfold Session.disassemble
  split
  · exact (Quiet.panic rfl).balanced
  · rename_i hlength
    refine hold (obtains_csMalloc g handle) (fun _ => hcsFree) rfl fun record => ?_
    refine hold (obtains_malloc g (by decide)) (fun _ => hfree) rfl fun block => ?_
    refine hold (obtains_malloc g (by omega)) (fun _ => hfree) rfl fun input => ?_
    exact (Quiet.decodeIn g handle steps code record block input).balanced

end Host

/-! ## Releases decide nothing -/

/-- Guests that differ only in what their functions for releasing memory do. -/
structure Guest.SameButReleases (g' g : Guest σ) : Prop where
  exports : g'.exports = g.exports
  invoke : ∀ name, name ≠ "free" → name ≠ "cs_free" → g'.invoke name = g.invoke name

namespace Guest.SameButReleases

variable {g' g : Guest σ}

theorem function? (h : SameButReleases g' g) (name : String) : g'.function? name = g.function? name := by
  simp only [Guest.function?, Guest.export?, h.exports]

theorem hasFunction (h : SameButReleases g' g) (name : String) :
    g'.hasFunction name = g.hasFunction name := by
  rw [Guest.hasFunction, Guest.hasFunction, h.function?]

theorem resolve (h : SameButReleases g' g) (name : String) : g'.resolve name = g.resolve name := by
  rw [Guest.resolve, Guest.resolve, h.hasFunction]

theorem call (h : SameButReleases g' g) {name : String} (hname : name ≠ "free" ∧ name ≠ "cs_free")
    (arguments : List UInt64) : g'.call name arguments = g.call name arguments := by
  have htry : g'.tryCall name arguments = g.tryCall name arguments := by
    funext s
    simp only [Guest.tryCall, Guest.prepare, h.function?, h.invoke name hname.1 hname.2]
  rw [Guest.call, Guest.call, htry]

theorem malloc (h : SameButReleases g' g) (size : Nat) : g'.malloc size = g.malloc size := by
  rw [Guest.malloc, Guest.malloc, h.resolve, h.call (by decide)]

theorem csMalloc (h : SameButReleases g' g) (handle : UInt32) :
    g'.csMalloc handle = g.csMalloc handle := by
  rw [Guest.csMalloc, Guest.csMalloc, h.resolve, h.call (by decide)]

theorem decodeAll (h : SameButReleases g' g) (handle : UInt32) (cursor : Session.Cursor)
    (record : UInt32) (steps : Nat) (decoded : Array Instruction) :
    Session.decodeAll g' handle cursor record steps decoded =
      Session.decodeAll g handle cursor record steps decoded := by
  induction steps generalizing decoded with
  | zero => rfl
  | succ steps ih =>
    simp only [Session.decodeAll, Guest.csDisasmIter, Guest.csMnemonic, Guest.csOperands, ih]
    rw [h.call (by decide)]
    simp only [h.call (show "cs_get_mnemonic" ≠ "free" ∧ "cs_get_mnemonic" ≠ "cs_free" by decide),
      h.call (show "cs_get_op_str" ≠ "free" ∧ "cs_get_op_str" ≠ "cs_free" by decide)]

theorem decodeIn (h : SameButReleases g' g) (handle : UInt32) (steps : Nat) (code : List UInt8)
    (record block input : UInt32) :
    Session.decodeIn g' handle steps code record block input =
      Session.decodeIn g handle steps code record block input := by
  simp only [Session.decodeIn, h.decodeAll]

end Guest.SameButReleases

namespace Session

variable {g : Guest σ} {a : Allocation}

/-- A release that never stops the host leaves the outcome of the use before it. -/
theorem outcome_withAllocation {body : Host σ α}
    (hfits : g.TakesIntegers a.releaseFunction a.releaseArguments.length)
    (hhas : g.hasFunction a.releaseFunction) (s : Scene σ) :
    ((withAllocation g a body).run s).1 = (body.run s).1 := by
  rw [withAllocation, Host.run_ensuring]
  rcases body.run s with ⟨(p | _) | b, t⟩
  · obtain ⟨u, hu⟩ := release_ok hfits hhas t
    simp only [hu]
  · rfl
  · obtain ⟨u, hu⟩ := release_ok hfits hhas t
    simp only [hu]

theorem outcome_withBlock {g' : Guest σ} (h : g'.SameButReleases g) (hfree : g.TakesIntegers "free" 1)
    (hfree' : g'.TakesIntegers "free" 1) (size : Nat) {body' body : UInt32 → Host σ α}
    (hbody : ∀ address s, ((body' address).run s).1 = ((body address).run s).1) (s : Scene σ) :
    ((withBlock g' size body').run s).1 = ((withBlock g size body).run s).1 := by
  rw [withBlock, withBlock, h.malloc, Host.run_bind, Host.run_bind]
  rcases hmalloc : (g.malloc size).run s with ⟨stop | address, t⟩
  · rfl
  · -- An address was given, so that the function to release it had been found before.
    have hhas : g.hasFunction "free" := (Guest.resolve_bind_eq_ok.mp hmalloc).1
    dsimp only
    split
    · rfl
    · rw [outcome_withAllocation hfree' (h.hasFunction "free" ▸ hhas),
        outcome_withAllocation hfree hhas, hbody]

theorem outcome_withRecord {g' : Guest σ} (h : g'.SameButReleases g)
    (hcsFree : g.TakesIntegers "cs_free" 2) (hcsFree' : g'.TakesIntegers "cs_free" 2) (handle : UInt32)
    {body' body : UInt32 → Host σ α}
    (hbody : ∀ address s, ((body' address).run s).1 = ((body address).run s).1) (s : Scene σ) :
    ((withRecord g' handle body').run s).1 = ((withRecord g handle body).run s).1 := by
  rw [withRecord, withRecord, h.csMalloc, Host.run_bind, Host.run_bind]
  rcases hmalloc : (g.csMalloc handle).run s with ⟨stop | address, t⟩
  · rfl
  · have hhas : g.hasFunction "cs_free" := (Guest.resolve_bind_eq_ok.mp hmalloc).1
    dsimp only
    split
    · rfl
    · rw [outcome_withAllocation hcsFree' (h.hasFunction "cs_free" ▸ hhas),
        outcome_withAllocation hcsFree hhas, hbody]

/-- What the releases do, trapping or not, has no part in how a decode ends. -/
theorem outcome_disassemble {g' : Guest σ} (h : g'.SameButReleases g)
    (hfree : g.TakesIntegers "free" 1) (hfree' : g'.TakesIntegers "free" 1)
    (hcsFree : g.TakesIntegers "cs_free" 2) (hcsFree' : g'.TakesIntegers "cs_free" 2)
    (handle : UInt32) (steps : Nat) (code : List UInt8) (s : Scene σ) :
    ((disassemble g' handle steps code).run s).1 = ((disassemble g handle steps code).run s).1 := by
  unfold disassemble
  split
  · rw [Host.run_bind, Host.run_bind, Host.run_panic]
  · refine outcome_withRecord h hcsFree hcsFree' handle (fun record s => ?_) s
    refine outcome_withBlock h hfree hfree' _ (fun block s => ?_) s
    refine outcome_withBlock h hfree hfree' _ (fun input s => ?_) s
    rw [h.decodeIn]

/-- **Scratch memory is given back on every way out.** However a decode ends, its last calls release what its
earlier calls obtained, each once and the last first, and no other call releases anything. A release that
traps leaves one warning behind. It keeps no other release from being made, and the decode ends as it would
with any other behaviour of the releases. -/
theorem disassemble_gives_back (g : Guest σ) (hfree : g.TakesIntegers "free" 1)
    (hcsFree : g.TakesIntegers "cs_free" 2) (handle : UInt32) (steps : Nat) (code : List UInt8)
    (s : Scene σ) (hends : ((disassemble g handle steps code).run s).1 ≠ .error .stepsExhausted) :
    ∃ releases, GivenBack (callsOf g handle steps code s) releases ∧
      ((disassemble g handle steps code).run s).2.events.toList =
        s.events.toList ++ announced ((disassemble g handle steps code).run s).1 ++
          releases.filterMap Release.warning? ∧
      (∀ r ∈ releases, ∀ e, r.warning? = some e → e.level = "WARN") ∧
      ∀ g' : Guest σ, g'.SameButReleases g → g'.TakesIntegers "free" 1 → g'.TakesIntegers "cs_free" 2 →
        ((disassemble g' handle steps code).run s).1 = ((disassemble g handle steps code).run s).1 := by
  -- The decode is carried over to the recorded guest, where its calls can be seen.
  have hmirror := run_disassemble_recorded g handle steps code s
  have houtcome : ((disassemble g handle steps code).run s).1 =
      ((disassemble g.recorded handle steps code).run s.recorded).1 := by rw [hmirror]; rfl
  have hevents : ((disassemble g handle steps code).run s).2.events =
      ((disassemble g.recorded handle steps code).run s.recorded).2.events := by rw [hmirror]; rfl
  rw [houtcome] at hends
  obtain ⟨calls, releases, hcalls, hback, hlog⟩ :=
    Host.Balanced.disassemble hfree hcsFree handle steps code s.recorded hends
  have hcallsOf : callsOf g handle steps code s = calls := hcalls.trans (List.nil_append calls)
  refine ⟨releases, hcallsOf ▸ hback, ?_, ?_, ?_⟩
  · rw [hevents, houtcome]
    exact hlog
  · intro r _ e he
    obtain ⟨trap, _, rfl⟩ := Option.map_eq_some_iff.mp he
    rfl
  · intro g' hsame hfree' hcsFree'
    exact outcome_disassemble hsame hfree hfree' hcsFree hcsFree' handle steps code s

/-- A guest that traps when it is asked to decode, and again whenever it is to release memory. -/
def grudging : Guest Unit where
  exports := [("free", .function ⟨[.i32], []⟩), ("cs_free", .function ⟨[.i32, .i64], [.i32]⟩),
    ("malloc", .function ⟨[.i32], [.i32]⟩), ("cs_malloc", .function ⟨[.i32], [.i32]⟩),
    ("cs_disasm_iter", .function ⟨[.i32, .i32, .i32, .i32, .i32], [.i32]⟩)]
  initialPages := 0
  start _ surroundings := .ok ⟨.zeroed 64 (Nat.le_of_ble_eq_true rfl), 0, (), surroundings⟩
  invoke name arguments := fun s =>
    match name, arguments with
    | "cs_malloc", _ => (.ok [.i32 8], s)
    | "malloc", [.i32 16] => (.ok [.i32 16], s)
    | "malloc", _ => (.ok [.i32 32], s)
    | _, _ => (.error .unreachable, s)

/-- A fresh instance of that guest. -/
def grudgingScene : Scene Unit := { store := ⟨.zeroed 64 (Nat.le_of_ble_eq_true rfl), 0, (), {}⟩ }

/-- All three allocations are given back though the decode and every release trap. -/
theorem grudging_gives_back :
    ((disassemble grudging 0 1 [0x90]).run grudgingScene).1 =
      .error (.panic (.callFailed (Guest.trapError "cs_disasm_iter" .unreachable))) ∧
    ∃ releases, GivenBack (callsOf grudging 0 1 [0x90] grudgingScene) releases ∧
      releases.map Release.allocation = [.block 32, .block 16, .record 8] ∧
      releases.filterMap Release.warning? =
        [.scratchNotReleased (.block 32) (Guest.trapError "free" .unreachable),
          .scratchNotReleased (.block 16) (Guest.trapError "free" .unreachable),
          .scratchNotReleased (.record 8) (Guest.trapError "cs_free" .unreachable)] := by
  have houtcome : ((disassemble grudging 0 1 [0x90]).run grudgingScene).1 =
      .error (.panic (.callFailed (Guest.trapError "cs_disasm_iter" .unreachable))) := rfl
  have hfree : grudging.TakesIntegers "free" 1 :=
    ⟨fun _ h => by cases h; decide, fun _ _ _ _ h => by cases h⟩
  have hcsFree : grudging.TakesIntegers "cs_free" 2 :=
    ⟨fun _ h => by cases h; decide, fun _ _ _ _ h => by cases h⟩
  obtain ⟨releases, hback, hevents, _⟩ :=
    disassemble_gives_back grudging hfree hcsFree 0 1 [0x90] grudgingScene (by rw [houtcome]; simp)
  refine ⟨houtcome, releases, hback, ?_, ?_⟩
  · rw [hback.reversed]
    decide
  · rw [houtcome] at hevents
    exact hevents.symm.trans (by decide)

end Session

end DecoderHost

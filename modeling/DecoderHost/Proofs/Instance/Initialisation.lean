import DecoderHost.Instance
import DecoderHost.Proofs.Guest.Recording

/-!
# Making an instance ready

A fresh instance must export its memory, and is then initialised: by `_initialize` if that is a function without
parameters and results, else by `_start` if that is one. `Initialises` has one constructor for each way in which this
may go, and says of each what is run and what comes of it. Exactly one of them applies to a guest and a store
(`exists_initialises`, `Initialises.unique`), and it tells what becomes of a fresh instance (`freshStore_of_start`).
-/

namespace DecoderHost

variable {σ : Type}

/-! ## What initialising comes to -/

/-- A function without parameters and results is exported under a name. -/
def Guest.ExportsProcedure (g : Guest σ) (name : String) : Prop := g.export? name = some (.function ⟨[], []⟩)

instance (g : Guest σ) (name : String) : Decidable (g.ExportsProcedure name) :=
  inferInstanceAs (Decidable (g.export? name = some (.function ⟨[], []⟩)))

/-- **How an instance is made ready** that starts with a store: the functions that are run, each with its arguments,
whether it becomes ready, and the store that is left in any case. -/
inductive Guest.Initialises (g : Guest σ) (s : Store σ) :
    List (String × List Value) → Except HostError Unit → Store σ → Prop
  | noMemory (hmemory : g.export? "memory" ≠ some .memory) :
    Initialises g s [] (.error (.exportNotFound "memory")) s
  | reactor {results : List Value} {t : Store σ} (hmemory : g.export? "memory" = some .memory)
    (hreactor : g.ExportsProcedure "_initialize") (hrun : g.invoke "_initialize" [] s = (.ok results, t)) :
    Initialises g s [("_initialize", [])] (.ok ()) t
  | reactorStopped {trap : Trap} {t : Store σ} (hmemory : g.export? "memory" = some .memory)
    (hreactor : g.ExportsProcedure "_initialize") (hrun : g.invoke "_initialize" [] s = (.error trap, t)) :
    Initialises g s [("_initialize", [])] (.error (.trap ("_initialize: " ++ trap.message))) t
  | command {results : List Value} {t : Store σ} (hmemory : g.export? "memory" = some .memory)
    (hreactor : ¬ g.ExportsProcedure "_initialize") (hcommand : g.ExportsProcedure "_start")
    (hrun : g.invoke "_start" [] s = (.ok results, t)) : Initialises g s [("_start", [])] (.ok ()) t
  | commandExited {t : Store σ} (hmemory : g.export? "memory" = some .memory)
    (hreactor : ¬ g.ExportsProcedure "_initialize") (hcommand : g.ExportsProcedure "_start")
    (hrun : g.invoke "_start" [] s = (.error (.exit 0), t)) : Initialises g s [("_start", [])] (.ok ()) t
  | commandStopped {trap : Trap} {t : Store σ} (hmemory : g.export? "memory" = some .memory)
    (hreactor : ¬ g.ExportsProcedure "_initialize") (hcommand : g.ExportsProcedure "_start")
    (hrun : g.invoke "_start" [] s = (.error trap, t)) (hexit : trap ≠ .exit 0) :
    Initialises g s [("_start", [])] (.error (.trap ("_start: " ++ trap.message))) t
  | none (hmemory : g.export? "memory" = some .memory) (hreactor : ¬ g.ExportsProcedure "_initialize")
    (hcommand : ¬ g.ExportsProcedure "_start") : Initialises g s [] (.ok ()) s

namespace Guest

theorem hasProcedure_iff {g : Guest σ} {name : String} : g.hasProcedure name ↔ g.ExportsProcedure name := by
  unfold hasProcedure function? ExportsProcedure
  split <;> simp_all

/-- The functions that are run to make an instance ready, each with its arguments: the calls that the recording guest
has in its log however making it ready ends. -/
def runs (g : Guest σ) (s : Store σ) : List (String × List Value) :=
  (g.recorded.makeReady s.recorded).2.globals.2.map fun c => (c.name, c.arguments)

variable {g : Guest σ} {s t : Store σ} {made : List (String × List Value)} {outcome : Except HostError Unit}

/-! ## One way -/

theorem exists_initialises (g : Guest σ) (s : Store σ) : ∃ made outcome t, g.Initialises s made outcome t := by
  by_cases hmemory : g.export? "memory" = some .memory
  · by_cases hreactor : g.ExportsProcedure "_initialize"
    · rcases hrun : g.invoke "_initialize" [] s with ⟨trap | results, t⟩
      · exact ⟨_, _, t, .reactorStopped hmemory hreactor hrun⟩
      · exact ⟨_, _, t, .reactor hmemory hreactor hrun⟩
    · by_cases hcommand : g.ExportsProcedure "_start"
      · rcases hrun : g.invoke "_start" [] s with ⟨trap | results, t⟩
        · by_cases hexit : trap = .exit 0
          · exact ⟨_, _, t, .commandExited hmemory hreactor hcommand (hexit ▸ hrun)⟩
          · exact ⟨_, _, t, .commandStopped hmemory hreactor hcommand hrun hexit⟩
        · exact ⟨_, _, t, .command hmemory hreactor hcommand hrun⟩
      · exact ⟨_, _, s, .none hmemory hreactor hcommand⟩
  · exact ⟨_, _, s, .noMemory hmemory⟩

theorem makeReady_of_memory (hmemory : g.export? "memory" = some .memory) (s : Store σ) :
    g.makeReady s = g.initialise s := by
  unfold makeReady memoryName
  rw [if_pos hmemory]

theorem makeReady_of_no_memory (hmemory : g.export? "memory" ≠ some .memory) (s : Store σ) :
    g.makeReady s = (.error (.exportNotFound "memory"), s) := by
  unfold makeReady memoryName
  rw [if_neg hmemory]
  rfl

/-- What comes of making an instance ready is what the way says. -/
theorem Initialises.makeReady_eq (h : g.Initialises s made outcome t) : g.makeReady s = (outcome, t) := by
  cases h with
  | noMemory hmemory => exact makeReady_of_no_memory hmemory s
  | reactor hmemory hreactor hrun =>
    simp only [makeReady_of_memory hmemory, initialise, if_pos (hasProcedure_iff.mpr hreactor), hrun]
  | reactorStopped hmemory hreactor hrun =>
    simp only [makeReady_of_memory hmemory, initialise, if_pos (hasProcedure_iff.mpr hreactor), hrun]
    rfl
  | command hmemory hreactor hcommand hrun | commandExited hmemory hreactor hcommand hrun =>
    simp only [makeReady_of_memory hmemory, initialise, if_neg (mt hasProcedure_iff.mp hreactor),
      if_pos (hasProcedure_iff.mpr hcommand), hrun]
  | commandStopped hmemory hreactor hcommand hrun hexit =>
    simp only [makeReady_of_memory hmemory, initialise, if_neg (mt hasProcedure_iff.mp hreactor),
      if_pos (hasProcedure_iff.mpr hcommand), hrun]
    rfl
  | none hmemory hreactor hcommand =>
    rw [makeReady_of_memory hmemory, initialise, if_neg (mt hasProcedure_iff.mp hreactor),
      if_neg (mt hasProcedure_iff.mp hcommand)]

/-- The recording guest is made ready in the same way, and its log has what is run. -/
theorem Initialises.recorded (h : g.Initialises s made outcome t) :
    ∃ log : List Call, g.recorded.Initialises s.recorded made outcome (t.map fun globals => (globals, log)) ∧
      log.map (fun c => (c.name, c.arguments)) = made := by
  have hinvoke {name : String} {outcome : Except Trap (List Value)} {t : Store σ}
      (hrun : g.invoke name [] s = (outcome, t)) : g.recorded.invoke name [] s.recorded =
        (outcome, t.map fun globals => (globals, [⟨name, [], outcome, s.memory, t.memory⟩])) := by
    have hsame : g.recorded.invoke name [] s.recorded =
        ((g.invoke name [] s).1, (g.invoke name [] s).2.map fun globals =>
          (globals, [⟨name, [], (g.invoke name [] s).1, s.memory, (g.invoke name [] s).2.memory⟩])) := rfl
    rw [hsame, hrun]
  cases h with
  | noMemory hmemory => exact ⟨[], .noMemory hmemory, rfl⟩
  | reactor hmemory hreactor hrun => exact ⟨_, .reactor hmemory hreactor (hinvoke hrun), rfl⟩
  | reactorStopped hmemory hreactor hrun => exact ⟨_, .reactorStopped hmemory hreactor (hinvoke hrun), rfl⟩
  | command hmemory hreactor hcommand hrun => exact ⟨_, .command hmemory hreactor hcommand (hinvoke hrun), rfl⟩
  | commandExited hmemory hreactor hcommand hrun =>
    exact ⟨_, .commandExited hmemory hreactor hcommand (hinvoke hrun), rfl⟩
  | commandStopped hmemory hreactor hcommand hrun hexit =>
    exact ⟨_, .commandStopped hmemory hreactor hcommand (hinvoke hrun) hexit, rfl⟩
  | none hmemory hreactor hcommand => exact ⟨[], .none hmemory hreactor hcommand, rfl⟩

/-- What is run is what the way says. -/
theorem Initialises.runs_eq (h : g.Initialises s made outcome t) : g.runs s = made := by
  obtain ⟨log, hrecorded, hlog⟩ := h.recorded
  rw [runs, hrecorded.makeReady_eq]
  exact hlog

/-- An instance is made ready in one way only. -/
theorem Initialises.unique {made' : List (String × List Value)} {outcome' : Except HostError Unit} {t' : Store σ}
    (h : g.Initialises s made outcome t) (h' : g.Initialises s made' outcome' t') :
    made' = made ∧ outcome' = outcome ∧ t' = t :=
  ⟨h'.runs_eq.symm.trans h.runs_eq, Prod.mk.inj (h'.makeReady_eq.symm.trans h.makeReady_eq)⟩

/-- At most one function is run, and at most once. -/
theorem Initialises.length_le (h : g.Initialises s made outcome t) : made.length ≤ 1 := by
  cases h <;> simp

end Guest

/-- An instance is ready with the store that is left, unless making it ready fails; in both cases the surroundings are
left as they are there. -/
theorem Decoder.freshStore_of_start {d : Decoder σ} {around : Surroundings} {s t : Store σ}
    {outcome : Except HostError Unit} (hstart : d.guest.start d.engine.config.pageLimit around = .ok s)
    (hready : d.guest.makeReady s = (outcome, t)) :
    d.freshStore around = (outcome.map fun () => t, t.surroundings) := by
  simp only [freshStore, hstart, hready]

end DecoderHost

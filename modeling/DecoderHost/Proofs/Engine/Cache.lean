import DecoderHost.Engine

/-!
# Engines and their compilation cache

Whether an engine can be created does not depend on the cache: for every file system and every way in which
the steps that prepare the cache may fail, creation ends as it does with the cache turned off. What depends
on the cache is the directory that the engine reports, and it reports one just when every step went through.

All of this rests on the runtime, which is given from outside and creates the engine with whatever settings it was
left with. What is asked of it is said in `KeepsCacheApart`. The steps are given from outside too, so they can be
given with a log of what was attempted (`recorded`), and that log is what it means that no step is attempted.
-/

namespace DecoderHost

variable {ω α β : Type}

/-! ## The directory that is used -/

namespace Path

/-- An absolute path is not empty. -/
theorem IsAbsolute.ne_empty {path : String} (h : isAbsolute path = true) : path ≠ "" := by
  intro hempty
  subst hempty
  exact absurd h (by decide +kernel)

end Path

/-- Where the compilation cache of a configuration lives, if it is not turned off. -/
inductive CacheDirectory (config : EngineConfig) (env : Environment) : String → Prop
  | configured {directory : String} (chosen : config.cacheDir = some directory) :
      CacheDirectory config env directory
  | ofXdg {base : String} (unset : config.cacheDir = none) (named : env.xdgCacheHome = some base)
      (nonempty : base ≠ "") (absolute : Path.isAbsolute base = true) :
      CacheDirectory config env (Path.join base "capstone-wasm")
  | ofHome {home : String} (unset : config.cacheDir = none)
      (unusable : ∀ base, env.xdgCacheHome = some base → base = "" ∨ Path.isAbsolute base = false)
      (named : env.home = some home) (nonempty : home ≠ "") :
      CacheDirectory config env (Path.join (Path.join home ".cache") "capstone-wasm")

/-- What of `XDG_CACHE_HOME` counts. -/
theorem filter_isAbsolute_eq_some {named : Option String} {base : String} :
    named.filter Path.isAbsolute = some base ↔
      named = some base ∧ base ≠ "" ∧ Path.isAbsolute base = true := by
  rw [Option.filter_eq_some_iff]
  constructor
  · intro h
    exact ⟨h.1, Path.IsAbsolute.ne_empty h.2, h.2⟩
  · intro h
    exact ⟨h.1, h.2.2⟩

/-- The variable `XDG_CACHE_HOME` is of no use just when it is unset, empty or relative. -/
theorem filter_isAbsolute_eq_none {named : Option String} :
    named.filter Path.isAbsolute = none ↔
      ∀ base, named = some base → base = "" ∨ Path.isAbsolute base = false := by
  rw [Option.filter_eq_none_iff]
  constructor
  · intro h base hbase
    exact .inr (by simpa using h base hbase)
  · intro h base hbase habsolute
    rcases h base hbase with hempty | hrelative
    · exact Path.IsAbsolute.ne_empty habsolute hempty
    · rw [hrelative] at habsolute
      cases habsolute

/-- What of `HOME` counts. -/
theorem filter_not_isEmpty_eq_some {named : Option String} {home : String} :
    (named.filter fun home => !home.isEmpty) = some home ↔ named = some home ∧ home ≠ "" := by
  rw [Option.filter_eq_some_iff, Bool.not_eq_true', String.isEmpty_eq_false_iff]

theorem resolveCacheDir_eq_some {config : EngineConfig} {env : Environment} {directory : String} :
    config.resolveCacheDir env = some directory ↔
      config.cacheCompiledModules = true ∧ CacheDirectory config env directory := by
  unfold EngineConfig.resolveCacheDir Environment.userCacheDirectory
  by_cases hon : config.cacheCompiledModules = true
  case neg => simp [hon]
  simp only [hon, if_true, true_and]
  constructor
  · intro h
    cases hchosen : config.cacheDir with
    | some chosen =>
      obtain rfl : chosen = directory := by simpa [hchosen] using h
      exact .configured hchosen
    | none =>
      cases hxdg : env.xdgCacheHome.filter Path.isAbsolute with
      | some base =>
        obtain ⟨named, nonempty, absolute⟩ := filter_isAbsolute_eq_some.mp hxdg
        obtain rfl : Path.join base "capstone-wasm" = directory := by simpa [hchosen, hxdg] using h
        exact .ofXdg hchosen named nonempty absolute
      | none =>
        cases hhome : env.home.filter fun home => !home.isEmpty with
        | some home =>
          obtain ⟨named, nonempty⟩ := filter_not_isEmpty_eq_some.mp hhome
          obtain rfl : Path.join (Path.join home ".cache") "capstone-wasm" = directory := by
            simpa [hchosen, hxdg, hhome] using h
          exact .ofHome hchosen (filter_isAbsolute_eq_none.mp hxdg) named nonempty
        | none => simp [hchosen, hxdg, hhome] at h
  · intro h
    cases h with
    | configured chosen => simp [chosen]
    | ofXdg unset named nonempty absolute =>
      have hxdg := filter_isAbsolute_eq_some.mpr ⟨named, nonempty, absolute⟩
      simp [unset, hxdg]
    | ofHome unset unusable named nonempty =>
      have hxdg := filter_isAbsolute_eq_none.mpr unusable
      have hhome := filter_not_isEmpty_eq_some.mpr ⟨named, nonempty⟩
      simp [unset, hxdg, hhome]

/-! ## Preparations -/

namespace Preparation

/-- A preparation, and what follows it: one that fails is the last, with the settings and the files as it left them. -/
theorem run_bind (m : Preparation ω α) (f : α → Preparation ω β) (setup : EngineSetup) (world : ω) :
    (m >>= f) setup world = match m setup world with
      | ((.ok a, changed), during) => f a changed during
      | ((.error fault, changed), during) => ((.error fault, changed), during) := by
  simp only [bind, ExceptT.bind, ExceptT.mk, StateT.bind]
  rcases m setup world with ⟨⟨fault | a, changed⟩, during⟩ <;> rfl

/-- A step on files leaves the settings of the runtime as they are. -/
theorem run_lift (action : FileAction ω α) (setup : EngineSetup) (world : ω) :
    (liftM action : Preparation ω α) setup world = (((action world).1, setup), (action world).2) :=
  rfl

variable {setup changed : EngineSetup} {world after : ω}

/-- A preparation and what follows it are done only if both are. -/
theorem bind_eq_ok {m : Preparation ω α} {f : α → Preparation ω β} {b : β} :
    (m >>= f) setup world = ((.ok b, changed), after) ↔
      ∃ a between during, m setup world = ((.ok a, between), during) ∧
        f a between during = ((.ok b, changed), after) := by
  rw [run_bind]
  rcases m setup world with ⟨⟨fault | a, between⟩, during⟩
  · constructor
    · intro h
      cases h
    · intro h
      obtain ⟨_, _, _, hfailed, -⟩ := h
      cases hfailed
  · constructor
    · intro h
      exact ⟨a, between, during, rfl, h⟩
    · intro h
      obtain ⟨_, _, _, hdone, h⟩ := h
      cases hdone
      exact h

theorem lift_eq_ok {action : FileAction ω α} {a : α} :
    (liftM action : Preparation ω α) setup world = ((.ok a, changed), after) ↔
      action world = (.ok a, after) ∧ changed = setup := by
  rw [run_lift]
  rcases action world with ⟨outcome, during⟩
  constructor
  · intro h
    cases h
    exact ⟨rfl, rfl⟩
  · rintro ⟨h, rfl⟩
    cases h
    rfl

end Preparation

/-- The steps that prepare a directory all go through, one after the other; the canonical path of the directory, and
the settings of the runtime and the files after them. -/
inductive Prepares (steps : CacheSteps ω) (directory : String) (setup : EngineSetup) (world : ω)
    (canonical : String) (changed : EngineSetup) (after : ω) : Prop
  | intro {made resolved rendered written : ω} {settings : String}
      (created : steps.createDirectories directory world = (.ok (), made))
      (canonicalised : steps.canonicalise directory made = (.ok canonical, resolved))
      (settled : steps.render canonical resolved = (.ok settings, rendered))
      (wrote : steps.write (Path.join canonical cacheSettingsFile) settings rendered = (.ok (), written))
      (loaded : steps.runtime.loadCache (Path.join canonical cacheSettingsFile) setup written =
        ((.ok (), changed), after))

/-- A preparation succeeds just when all of its steps do. -/
theorem prepare_eq_ok {steps : CacheSteps ω} {directory canonical : String} {setup changed : EngineSetup}
    {world after : ω} :
    steps.prepare directory setup world = ((.ok canonical, changed), after) ↔
      Prepares steps directory setup world canonical changed after := by
  unfold CacheSteps.prepare
  simp only [Preparation.bind_eq_ok, Preparation.lift_eq_ok]
  constructor
  · rintro ⟨_, _, made, ⟨created, rfl⟩, found, _, resolved, ⟨canonicalised, rfl⟩, settings, _, rendered,
      ⟨settled, rfl⟩, _, _, written, ⟨wrote, rfl⟩, _, _, _, loaded, h⟩
    cases h
    exact .intro created canonicalised settled wrote loaded
  · rintro ⟨created, canonicalised, settled, wrote, loaded⟩
    exact ⟨_, _, _, ⟨created, rfl⟩, _, _, _, ⟨canonicalised, rfl⟩, _, _, _, ⟨settled, rfl⟩, _, _, _,
      ⟨wrote, rfl⟩, _, _, _, loaded, rfl⟩

/-! ## What is asked of the runtime -/

/-- **A runtime that keeps the cache apart.** Settings of a cache that fail to load are without effect on the settings
of the runtime. Those that are loaded change no other settings. Whether there can be an engine does not depend on
them. -/
structure Runtime.KeepsCacheApart (runtime : Runtime ω) : Prop where
  unloaded : ∀ {path setup world fault changed after},
    runtime.loadCache path setup world = ((.error fault, changed), after) → changed = setup
  loaded : ∀ {path setup world changed after}, runtime.loadCache path setup world = ((.ok (), changed), after) →
    ∃ settings, changed = { setup with cacheSettings := settings }
  newEngine : ∀ setup settings, runtime.newEngine { setup with cacheSettings := settings } = runtime.newEngine setup

/-- However a preparation ends, the runtime creates an engine just when it did before. -/
def Preparation.Harmless (runtime : Runtime ω) (m : Preparation ω α) : Prop :=
  ∀ setup world, runtime.newEngine (m setup world).1.2 = runtime.newEngine setup

namespace Preparation.Harmless

variable {runtime : Runtime ω}

theorem lift (action : FileAction ω α) : Harmless runtime (liftM action) := fun _ _ => rfl

theorem pure (a : α) : Harmless runtime (Pure.pure a : Preparation ω α) := fun _ _ => rfl

theorem bind {m : Preparation ω α} {f : α → Preparation ω β} (hm : Harmless runtime m)
    (hf : ∀ a, Harmless runtime (f a)) : Harmless runtime (m >>= f) := by
  intro setup world
  have hbefore := hm setup world
  rw [run_bind]
  rcases hrun : m setup world with ⟨⟨fault | a, changed⟩, during⟩ <;> rw [hrun] at hbefore
  · exact hbefore
  · exact (hf a changed during).trans hbefore

theorem loadCache (h : runtime.KeepsCacheApart) (path : String) : Harmless runtime (runtime.loadCache path) := by
  intro setup world
  rcases hload : runtime.loadCache path setup world with ⟨⟨fault | ⟨⟩, changed⟩, after⟩
  · rw [h.unloaded hload]
  · obtain ⟨settings, rfl⟩ := h.loaded hload
    exact h.newEngine setup settings

/-- **The preparation of a cache does no harm.** -/
theorem prepare {steps : CacheSteps ω} (h : steps.runtime.KeepsCacheApart) (directory : String) :
    Harmless steps.runtime (steps.prepare directory) := by
  unfold CacheSteps.prepare
  refine (lift _).bind fun _ => (lift _).bind fun canonical => (lift _).bind fun settings => ?_
  exact (lift _).bind fun _ => (loadCache h _).bind fun _ => pure canonical

end Preparation.Harmless

/-! ## Steps with a log -/

/-- A step that prepares a cache, and what it is given. -/
inductive CacheStep where
  | createDirectories (directory : String)
  | canonicalise (directory : String)
  | render (directory : String)
  | write (path settings : String)
  | load (path : String)
  deriving DecidableEq, Repr

/-- An action that is put down in a log before it is tried. -/
def FileAction.noted (action : FileAction ω α) (step : CacheStep) :
    FileAction (ω × List CacheStep) α :=
  fun world => ((action world.1).1, (action world.1).2, world.2 ++ [step])

/-- A preparation that is put down in a log before it is tried. -/
def Preparation.noted (m : Preparation ω α) (step : CacheStep) : Preparation (ω × List CacheStep) α :=
  fun setup world => ((m setup world.1).1, (m setup world.1).2, world.2 ++ [step])

/-- The same steps, each of them put down before it is tried. -/
def CacheSteps.recorded (steps : CacheSteps ω) : CacheSteps (ω × List CacheStep) where
  createDirectories directory :=
    FileAction.noted (steps.createDirectories directory) (.createDirectories directory)
  canonicalise directory := FileAction.noted (steps.canonicalise directory) (.canonicalise directory)
  render directory := FileAction.noted (steps.render directory) (.render directory)
  write path settings := FileAction.noted (steps.write path settings) (.write path settings)
  runtime := {
    loadCache := fun path => (steps.runtime.loadCache path).noted (.load path)
    newEngine := steps.runtime.newEngine
    admitMemory := steps.runtime.admitMemory }

/-- One preparation goes as the other does, and puts down what it attempts, beginning with some steps. -/
def Preparation.Records (first : List CacheStep) (recording : Preparation (ω × List CacheStep) α)
    (plain : Preparation ω α) : Prop :=
  ∀ setup world log, ∃ attempted, recording setup (world, log) =
    ((plain setup world).1, (plain setup world).2, log ++ first ++ attempted)

namespace Preparation.Records

theorem pure (a : α) : Records [] (Pure.pure a : Preparation (ω × List CacheStep) α) (Pure.pure a) := by
  intro setup world log
  exact ⟨[], by simp only [List.append_nil]; rfl⟩

theorem noted (m : Preparation ω α) (step : CacheStep) : Records [step] (m.noted step) m := by
  intro setup world log
  exact ⟨[], by simp only [List.append_nil]; rfl⟩

theorem attempt (action : FileAction ω α) (step : CacheStep) :
    Records [step] (liftM (FileAction.noted action step)) (liftM action : Preparation ω α) :=
  noted (liftM action) step

theorem bind {first : List CacheStep} {recording : Preparation (ω × List CacheStep) α}
    {plain : Preparation ω α} {g : α → Preparation (ω × List CacheStep) β} {f : α → Preparation ω β}
    (h : Records first recording plain) (hrest : ∀ a, ∃ second, Records second (g a) (f a)) :
    Records first (recording >>= g) (plain >>= f) := by
  intro setup world log
  obtain ⟨attempted, hfirst⟩ := h setup world log
  rw [run_bind, run_bind, hfirst]
  rcases plain setup world with ⟨⟨fault | a, changed⟩, during⟩
  · exact ⟨attempted, rfl⟩
  · obtain ⟨second, hsecond⟩ := hrest a
    obtain ⟨more, hmore⟩ := hsecond changed during (log ++ first ++ attempted)
    refine ⟨attempted ++ second ++ more, hmore.trans ?_⟩
    simp only [List.append_assoc]

/-- A recorded preparation of a cache goes as the plain one does, and first attempts to make the directory. -/
theorem prepare (steps : CacheSteps ω) (directory : String) :
    Records [.createDirectories directory] (steps.recorded.prepare directory) (steps.prepare directory) := by
  unfold CacheSteps.prepare
  exact (attempt _ _).bind fun _ => ⟨_, (attempt _ _).bind fun canonical => ⟨_,
    (attempt _ _).bind fun settings => ⟨_, (attempt _ _).bind fun _ => ⟨_,
      (noted _ _).bind fun _ => ⟨_, pure canonical⟩⟩⟩⟩⟩

end Preparation.Records

namespace Engine

variable {steps : CacheSteps ω} {config : EngineConfig} {env : Environment} {world : ω}

/-- What is attempted when an engine is created. -/
def attempts (steps : CacheSteps ω) (config : EngineConfig) (env : Environment) (world : ω) :
    List CacheStep :=
  (create steps.recorded config env (world, [])).2.2

/-- With a log the cache is activated as without. What is put down is nothing if there is no directory to use, and
else begins with the making of that directory. -/
theorem activate_recorded (steps : CacheSteps ω) (config : EngineConfig) (env : Environment) (world : ω) :
    ∃ attempted, steps.recorded.activate config env (world, []) =
        ((steps.activate config env world).1, (steps.activate config env world).2, attempted) ∧
      (attempted = [] ↔ config.resolveCacheDir env = none) := by
  unfold CacheSteps.activate
  cases config.resolveCacheDir env with
  | none => exact ⟨[], rfl, by simp⟩
  | some directory =>
    obtain ⟨more, hprepare⟩ := Preparation.Records.prepare steps directory config.setup world []
    exact ⟨.createDirectories directory :: more, by simp only [hprepare]; rfl, by simp⟩

/-- An engine is created with the log as it is without, and no step is attempted just when there is no directory to
use. -/
theorem create_recorded (steps : CacheSteps ω) (config : EngineConfig) (env : Environment) (world : ω) :
    create steps.recorded config env (world, []) =
        ((create steps config env world).1, (create steps config env world).2,
          attempts steps config env world) ∧
      (attempts steps config env world = [] ↔ config.resolveCacheDir env = none) := by
  obtain ⟨attempted, hactivate, hattempted⟩ := activate_recorded steps config env world
  have hruntime : steps.recorded.runtime.newEngine = steps.runtime.newEngine := rfl
  unfold attempts create
  simp only [hactivate, hruntime]
  cases steps.runtime.newEngine (steps.activate config env world).1.2 with
  | error reason => exact ⟨rfl, hattempted⟩
  | ok _ => exact ⟨rfl, hattempted⟩

/-! ## Whether an engine is created -/

/-- However the preparation of the cache ends, the runtime creates an engine just when it would without. -/
theorem newEngine_activate (h : steps.runtime.KeepsCacheApart) :
    steps.runtime.newEngine (steps.activate config env world).1.2 = steps.runtime.newEngine config.setup := by
  unfold CacheSteps.activate
  cases config.resolveCacheDir env with
  | none => rfl
  | some directory => exact Preparation.Harmless.prepare h directory config.setup world

/-- The active directory is the canonical path of the one to use, if all steps go through. -/
theorem activate_eq_some {canonical : String} :
    (steps.activate config env world).1.1 = some canonical ↔
      ∃ directory, config.resolveCacheDir env = some directory ∧
        ∃ changed after, Prepares steps directory config.setup world canonical changed after := by
  unfold CacheSteps.activate
  cases config.resolveCacheDir env with
  | none => simp
  | some directory =>
    simp only [Option.some.injEq, exists_eq_left', ← prepare_eq_ok]
    rcases steps.prepare directory config.setup world with ⟨⟨outcome, changed⟩, after⟩
    constructor
    · intro h
      cases outcome with
      | error fault => cases h
      | ok found =>
        cases h
        exact ⟨changed, after, rfl⟩
    · rintro ⟨_, _, h⟩
      cases h
      rfl

/-- An engine that is created has its configuration, and the active directory. -/
theorem create_eq_ok_iff (h : steps.runtime.KeepsCacheApart) {engine : Engine} :
    (create steps config env world).1 = .ok engine ↔
      steps.runtime.newEngine config.setup = .ok () ∧
        engine = ⟨config, (steps.activate config env world).1.1⟩ := by
  unfold create
  simp only [newEngine_activate h]
  cases steps.runtime.newEngine config.setup with
  | error reason => simp
  | ok _ => simp [eq_comm]

theorem create_eq_error_iff (h : steps.runtime.KeepsCacheApart) {error : HostError} :
    (create steps config env world).1 = .error error ↔
      ∃ reason, steps.runtime.newEngine config.setup = .error reason ∧ refusal reason = error := by
  unfold create
  simp only [newEngine_activate h]
  cases steps.runtime.newEngine config.setup with
  | error reason => simp
  | ok _ => simp

/-- **The cache never decides whether an engine can be created**, on a runtime that keeps it apart. However the steps
that prepare a cache end, creation succeeds just when it does for the same configuration with the cache turned off, and
fails with the same error. An engine that is created reports a directory just when the cache is on, there is a
directory to use, and every step on it went through; it is the canonical path of that directory. With a log of the
steps that are attempted creation goes as without, and without a directory to use no step is attempted. -/
theorem create_despite_cache (steps : CacheSteps ω) (hruntime : steps.runtime.KeepsCacheApart)
    (config : EngineConfig) (env : Environment) (world : ω) :
    let created := (create steps config env world).1
    let uncached := (create steps { config with cacheCompiledModules := false } env world).1
    ((∃ engine, created = .ok engine) ↔ ∃ engine, uncached = .ok engine) ∧
    (∀ error, created = .error error ↔ uncached = .error error) ∧
    (∀ engine, created = .ok engine → engine.config = config ∧
      ∀ canonical, engine.cacheDir = some canonical ↔
        config.cacheCompiledModules = true ∧ ∃ directory changed after,
          CacheDirectory config env directory ∧
            Prepares steps directory config.setup world canonical changed after) ∧
    create steps.recorded config env (world, []) =
      (created, (create steps config env world).2, attempts steps config env world) ∧
    (attempts steps config env world = [] ↔
      config.cacheCompiledModules = false ∨ ∀ directory, ¬CacheDirectory config env directory) := by
  intro created uncached
  obtain ⟨hrecorded, hattempts⟩ := create_recorded steps config env world
  refine ⟨?_, ?_, ?_, hrecorded, ?_⟩
  · constructor
    · intro h
      obtain ⟨engine, hengine⟩ := h
      exact ⟨_, (create_eq_ok_iff hruntime).mpr ⟨((create_eq_ok_iff hruntime).mp hengine).1, rfl⟩⟩
    · intro h
      obtain ⟨engine, hengine⟩ := h
      exact ⟨_, (create_eq_ok_iff hruntime).mpr ⟨((create_eq_ok_iff hruntime).mp hengine).1, rfl⟩⟩
  · intro error
    show (create _ _ _ _).1 = _ ↔ (create _ _ _ _).1 = _
    rw [create_eq_error_iff hruntime, create_eq_error_iff hruntime]
    rfl
  · intro engine h
    obtain ⟨-, rfl⟩ := (create_eq_ok_iff hruntime).mp h
    refine ⟨rfl, fun canonical => ?_⟩
    rw [activate_eq_some]
    simp only [resolveCacheDir_eq_some]
    constructor
    · intro h
      obtain ⟨directory, ⟨hon, hdirectory⟩, changed, after, hprepares⟩ := h
      exact ⟨hon, directory, changed, after, hdirectory, hprepares⟩
    · intro h
      obtain ⟨hon, directory, changed, after, hdirectory, hprepares⟩ := h
      exact ⟨directory, ⟨hon, hdirectory⟩, changed, after, hprepares⟩
  · rw [hattempts, Option.eq_none_iff_forall_ne_some]
    simp only [ne_eq, resolveCacheDir_eq_some, not_and]
    cases config.cacheCompiledModules <;> simp

end Engine

/-! ## A runtime, and files told by their paths -/

/-- A runtime that reserves its pools keeps the cache apart. -/
theorem Runtime.keepsCacheApart_reserving (contentsOf : ω → FileReader) :
    (Runtime.reserving contentsOf).KeepsCacheApart where
  unloaded {path _ world _ _ _} h := by
    simp only [reserving] at h
    cases hread : contentsOf world path <;> rw [hread] at h <;> cases h
    rfl
  loaded {path _ world _ _} h := by
    simp only [reserving] at h
    cases hread : contentsOf world path <;> rw [hread] at h <;> cases h
    exact ⟨_, rfl⟩
  newEngine _ _ := rfl

/-- Files that are told by their paths: what is made is there, and nothing else is. -/
def CacheSteps.byName : CacheSteps (List String) where
  createDirectories directory := fun paths => (.ok (), directory :: paths)
  canonicalise directory := fun paths =>
    (if directory ∈ paths then .ok directory else .error .notFound, paths)
  render directory := fun paths => (.ok (cacheSettings directory), paths)
  write path _ := fun paths => (.ok (), path :: paths)
  runtime := .reserving fun paths path => if path ∈ paths then .ok [] else .error .notFound

theorem Prepares.byName (directory : String) (setup : EngineSetup) (paths : List String) :
    Prepares CacheSteps.byName directory setup paths directory
      { setup with cacheSettings := some (Path.join directory cacheSettingsFile) }
      (Path.join directory cacheSettingsFile :: directory :: paths) := by
  have hfound : CacheSteps.byName.canonicalise directory (directory :: paths) =
      (.ok directory, directory :: paths) := by simp [CacheSteps.byName]
  have hloaded (path : String) : CacheSteps.byName.runtime.loadCache path setup (path :: directory :: paths) =
      ((.ok (), { setup with cacheSettings := some path }), path :: directory :: paths) := by
    simp [CacheSteps.byName, Runtime.reserving]
  exact .intro rfl hfound rfl rfl (hloaded _)

/-- With nothing configured the cache goes below the home directory. -/
theorem Engine.create_at_home : ∃ engine,
    (create CacheSteps.byName {} { home := some "/home/u" } []).1 = .ok engine ∧
      engine.cacheDir = some "/home/u/.cache/capstone-wasm" := by
  obtain ⟨hcreated, -, hreports, -, -⟩ := create_despite_cache CacheSteps.byName
    (Runtime.keepsCacheApart_reserving _) {} { home := some "/home/u" } []
  obtain ⟨engine, hengine⟩ := hcreated.mpr ⟨_, rfl⟩
  have hpath : Path.join (Path.join "/home/u" ".cache") "capstone-wasm" = "/home/u/.cache/capstone-wasm" := by
    decide +kernel
  have hdirectory : CacheDirectory {} { home := some "/home/u" } "/home/u/.cache/capstone-wasm" := by
    rw [← hpath]
    exact .ofHome rfl (by simp) rfl (by simp)
  exact ⟨engine, hengine,
    ((hreports engine hengine).2 _).mpr ⟨rfl, _, _, _, hdirectory, Prepares.byName _ _ _⟩⟩

end DecoderHost

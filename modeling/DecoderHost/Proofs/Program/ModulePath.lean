import DecoderHost.Proofs.CommandLine.Acceptance
import DecoderHost.Proofs.Program.Stages

/-!
# Which module a run loads

The path of the module comes from the command line, from the environment or from the configuration file. A
library that is given a configuration takes the path that is configured, and that of the environment only if
there is none (`DecoderConfig.modulePathOr`). A run of the program does not: its command line takes over the
path of the environment where no module is given, and what the command line says wins over the file. So with
no module given the two agree just when the environment and the file do not name different modules
(`run_module`), and where they do the run passes over the file (`environment_hides_file`).
-/

namespace DecoderHost

namespace Program

variable {σ ω : Type}

/-- The decoder of the module at a path, if there is a path. -/
def loadFrom (loader : Loader σ ω) (files : ω) (engine : EngineConfig) (path? : Option String) :
    Except Breakdown (Decoder σ) :=
  match path? with
  | none => .error (.notLoaded Loader.noModule)
  | some path =>
    match (loader.ofFile engine path files).1 with
    | .ok decoder => .ok decoder
    | .error e => .error (.notLoaded e)

/-- What is left of a run once the configuration is known, with the module at a path. -/
def runFrom (loader : Loader σ ω) (files : ω) (logFilter : Option String) (input : List UInt8)
    (config : Config) (arguments : Arguments) (path? : Option String) : Report :=
  match Log.ofConfig? logFilter config.log with
  | none => tornFilterReport
  | some log => loggedReport log arguments.source do
    let code ← readCode input arguments.source
    let decoder ← loadFrom loader files config.runtime.engine path?
    let lines ← decode decoder arguments.target code
    return { code, lines }

/-- The path that the settings of a run name. -/
def settledPath? (loader : Loader σ ω) (config : Config) (arguments : Arguments) : Option String :=
  (runtimeSettings config arguments).decoder.modulePathOr loader.environment

/-- The path on the command line comes before the one that the library would take. -/
theorem settledPath?_eq (loader : Loader σ ω) (config : Config) (arguments : Arguments) :
    settledPath? loader config arguments =
      (arguments.modulePath <|> config.runtime.decoder.modulePathOr loader.environment) := by
  unfold settledPath? runtimeSettings
  cases arguments.modulePath <;> rfl

/-- A module on the command line changes nothing about the engine. -/
theorem runtimeSettings_engine (config : Config) (arguments : Arguments) :
    (runtimeSettings config arguments).engine = config.runtime.engine := by
  unfold runtimeSettings
  cases arguments.modulePath <;> rfl

theorem load_eq (loader : Loader σ ω) (files : ω) (config : Config) (arguments : Arguments) :
    load loader files config arguments =
      loadFrom loader files config.runtime.engine (settledPath? loader config arguments) := by
  unfold load Loader.ofConfig settledPath?
  rw [runtimeSettings_engine]
  cases (runtimeSettings config arguments).decoder.modulePathOr loader.environment <;> rfl

theorem run_eq_runFrom {loader : Loader σ ω} {files : ω} {words : List String} {arguments : Arguments}
    {config : Config} (hparse : CommandLine.parse words loader.environment.modulePath = .ok arguments)
    (hconfigure : configure (loader.contentsOf files) arguments = .ok config) (logFilter : Option String)
    (input : List UInt8) :
    run loader files logFilter input words =
      runFrom loader files logFilter input config arguments (settledPath? loader config arguments) := by
  unfold run runFrom
  simp only [hparse, hconfigure, ← load_eq]
  rfl

/-- **Which module a run loads.** With a module given on the command line it is that module. With none
given it is the one that the environment names, and the one of the configuration file only if the
environment names none. That is what the library takes for the same file just when the environment and the
file do not name different modules. -/
theorem run_module (loader : Loader σ ω) (files : ω) {words : List String} {arguments : Arguments}
    {config : Config} (hparse : CommandLine.parse words loader.environment.modulePath = .ok arguments)
    (hconfigure : configure (loader.contentsOf files) arguments = .ok config) :
    let fromFile := config.runtime.decoder.modulePath
    let fromEnvironment := loader.environment.modulePath
    ∃ items path?, (∀ items', CommandLine.Spells items' words ↔ items' = items) ∧
      (∀ logFilter input, run loader files logFilter input words =
        runFrom loader files logFilter input config arguments path?) ∧
      ((∃ flag, CommandLine.values .module items = [flag] ∧ path? = some flag) ∨
        (CommandLine.values .module items = [] ∧ path? = (fromEnvironment <|> fromFile) ∧
          (path? = config.runtime.decoder.modulePathOr loader.environment ↔
            fromEnvironment = none ∨ fromFile = none ∨ fromEnvironment = fromFile))) := by
  intro fromFile fromEnvironment
  obtain ⟨items, hitems, hasked⟩ := CommandLine.parse_eq_ok_iff.mp hparse
  refine ⟨items, settledPath? loader config arguments,
    fun items' => ⟨hitems.unique, fun heq => heq ▸ hitems⟩, run_eq_runFrom hparse hconfigure, ?_⟩
  rw [settledPath?_eq]
  rcases hasked.module with ⟨flag, hvalues, hmodule⟩ | ⟨hvalues, hmodule⟩
  · left
    exact ⟨flag, hvalues, by rw [hmodule]; rfl⟩
  · right
    refine ⟨hvalues, ?_⟩
    rw [hmodule]
    show (fromEnvironment <|> fromFile <|> fromEnvironment) = _ ∧
      ((fromEnvironment <|> fromFile <|> fromEnvironment) = (fromFile <|> fromEnvironment) ↔ _)
    cases fromEnvironment <;> cases fromFile <;> simp

/-! ## Paths that differ -/

/-- Two files: a configuration that names a module, and that module. -/
def namedFiles : FileReader := fun path =>
  if path = "c.toml" then .ok "[runtime.decoder]\nmodule_path = \"file.wasm\"\n".toUTF8.toList
  else if path = "file.wasm" then .ok (Module.magic ++ [1, 0, 0, 0])
  else .error .notFound

/-- A loader for these files, with a module named by the environment that is not there. -/
def namingLoader : Loader Nat Unit :=
  { singleLoader with environment := { modulePath := some "env.wasm" }, contentsOf := fun _ => namedFiles }

/-- The configuration that names the module. -/
def namedConfig : Config := { runtime := { decoder := { modulePath := some "file.wasm" } } }

theorem readConfig_named : Loader.readConfig namedFiles "c.toml" = .ok namedConfig := by
  have hread : (Loader.readConfig namedFiles "c.toml").toOption = some namedConfig := by decide +kernel
  cases h : Loader.readConfig namedFiles "c.toml" with
  | error e =>
    rw [h] at hread
    cases hread
  | ok config =>
    rw [h] at hread
    cases hread
    rfl

/-- The module that is given wins over that of the environment and over that of the file. -/
theorem run_module_flag :
    run namingLoader () (some "") [] ["--module=m", "--arch=amd64", "--config=c.toml", "90"] =
      runFrom namingLoader () (some "") [] namedConfig ⟨.amd64, .opcode "90", some "m", some "c.toml"⟩
        (some "m") := by
  obtain ⟨items, path?, hitems, hrun, hpath⟩ :=
    run_module namingLoader ()
      (show CommandLine.parse ["--module=m", "--arch=amd64", "--config=c.toml", "90"]
        (some "env.wasm") = .ok ⟨.amd64, .opcode "90", some "m", some "c.toml"⟩ from rfl)
      (show configure namedFiles ⟨.amd64, .opcode "90", some "m", some "c.toml"⟩ = .ok namedConfig by
        simp only [configure, readConfig_named])
  have hspells : CommandLine.Spells
      [.value .module "m", .value .arch "amd64", .value .config "c.toml", .opcode "90"]
      ["--module=m", "--arch=amd64", "--config=c.toml", "90"] :=
    .attached .module "m" (.attached .arch "amd64" (.attached .config "c.toml" (.opcode (by decide) .nil)))
  obtain rfl := (hitems _).mp hspells
  rcases hpath with ⟨flag, hvalues, rfl⟩ | ⟨hvalues, -⟩
  · obtain rfl : "m" = flag := by simpa [CommandLine.values] using hvalues
    exact hrun _ _
  · simp [CommandLine.values] at hvalues

/-- Where nothing is given, the file names one module and the environment another, the run loads the one of
the environment. It is not there, and so the run fails, while the module of the file is there. -/
theorem environment_hides_file :
    let words := ["--arch", "amd64", "--config", "c.toml", "90c3"]
    let arguments : Arguments := ⟨.amd64, .opcode "90c3", some "env.wasm", some "c.toml"⟩
    CommandLine.parse words namingLoader.environment.modulePath = .ok arguments ∧
      (CommandLine.beforeTerminator words).countP (CommandLine.Mentions .module) = 0 ∧
      configure (namingLoader.contentsOf ()) arguments = .ok namedConfig ∧
      namedConfig.runtime.decoder.modulePathOr namingLoader.environment = some "file.wasm" ∧
      (loadFrom namingLoader () namedConfig.runtime.engine (some "file.wasm")).isOk ∧
      load namingLoader () namedConfig arguments = .error (.notLoaded (.moduleNotFound "env.wasm")) ∧
      (run namingLoader () (some "") [] words).status = 1 := by
  intro words arguments
  have hconfigure : configure (namingLoader.contentsOf ()) arguments = .ok namedConfig := by
    show configure namedFiles arguments = _
    simp only [arguments, configure, readConfig_named]
  have hload : load namingLoader () namedConfig arguments =
      .error (.notLoaded (.moduleNotFound "env.wasm")) := rfl
  refine ⟨rfl, by decide, hconfigure, rfl, rfl, hload, ?_⟩
  have hcode : readCode [] arguments.source = .ok [0x90, 0xc3] := rfl
  rw [run_eq_runFrom rfl hconfigure, runFrom, ofConfig?_empty, ← load_eq, hcode, hload]
  rfl

end Program

end DecoderHost

import DecoderHost.Path

/-!
The configuration: how modules are run, which decoder module is used, and what is logged. Every setting
has a default. The module path and the directory of the compilation cache may come from the environment.
-/

namespace DecoderHost

/-- The environment variables that matter. -/
structure Environment where
  modulePath : Option String := none
  xdgCacheHome : Option String := none
  home : Option String := none
  deriving DecidableEq, Repr

/-- The per-user cache directory: the one named by the environment if it is an absolute path, else the
usual place under the home directory. -/
def Environment.userCacheDirectory (env : Environment) : Option String :=
  match env.xdgCacheHome.filter Path.isAbsolute with
  | some directory => some directory
  | none => (env.home.filter fun home => !home.isEmpty).map fun home => Path.join home ".cache"

/-- How modules are run. -/
structure EngineConfig where
  poolingAllocator : Bool := false
  maxInstances : UInt32 := 64
  instanceMemoryMb : UInt32 := 64
  cacheCompiledModules : Bool := true
  cacheDir : Option String := none
  deriving DecidableEq, Repr

/-- The directory for the compilation cache: none when caching is off, else the configured one, else one
in the user's cache directory. -/
def EngineConfig.resolveCacheDir (config : EngineConfig) (env : Environment) : Option String :=
  if config.cacheCompiledModules then
    config.cacheDir <|> env.userCacheDirectory.map fun base => Path.join base "capstone-wasm"
  else none

/-- Which decoder module is used. -/
structure DecoderConfig where
  modulePath : Option String := none
  deriving DecidableEq, Repr

/-- The configured module path, else the one of the environment. -/
def DecoderConfig.modulePathOr (config : DecoderConfig) (env : Environment) : Option String :=
  config.modulePath <|> env.modulePath

/-- How modules are run, and which one. -/
structure RuntimeConfig where
  engine : EngineConfig := {}
  decoder : DecoderConfig := {}
  deriving DecidableEq, Repr

/-- The form in which events are logged. -/
inductive LogFormat where
  | text | json
  deriving DecidableEq, Repr

/-- The name of a log format. -/
def LogFormat.name : LogFormat → String
  | text => "text"
  | json => "json"

/-- What is logged, and in which form. -/
structure LogConfig where
  filter : String := "warn,capstone_wasm=info"
  format : LogFormat := .text
  deriving DecidableEq, Repr

/-- The whole configuration. -/
structure Config where
  runtime : RuntimeConfig := {}
  log : LogConfig := {}
  deriving DecidableEq, Repr

end DecoderHost

import DecoderHost.Config.Document
import DecoderHost.Module
import DecoderHost.Session.Calls

/-!
Decoders: a decoder module on the engine that runs it, and the ways to get one: from bytes, from a file,
or from a configuration.

The engine comes first, and creating it may change the files: its cache is prepared then. A module file is
read from what the files hold afterwards.
-/

namespace DecoderHost

/-- A decoder module and its engine. -/
structure Decoder (σ : Type) where
  engine : Engine
  module : Module σ

/-- What getting a decoder needs from outside: the environment, how a cache is prepared, what the files
hold, and the compiler. The files may be a state of any kind. -/
structure Loader (σ ω : Type) where
  environment : Environment
  cache : CacheSteps ω
  contentsOf : ω → FileReader
  compiler : Compiler σ

/-- An attempt to get something, which may change the files. -/
abbrev Loading (ω α : Type) := ExceptT HostError (StateM ω) α

namespace Loader

variable {σ ω : Type}

/-- An engine for a configuration. -/
def createEngine (loader : Loader σ ω) (config : EngineConfig) : Loading ω Engine :=
  fun files => Engine.create loader.cache config loader.environment files

/-- A decoder from a module at hand. -/
def ofBytes (loader : Loader σ ω) (config : EngineConfig) (format : ModuleFormat)
    (bytes : List UInt8) : Loading ω (Decoder σ) := do
  let engine ← loader.createEngine config
  let module ← Module.compile loader.cache.runtime engine loader.compiler format bytes
  return { engine, module }

/-- The bytes of a module file. -/
def moduleBytes (contentsOf : FileReader) (path : String) : Except HostError (List UInt8) :=
  match contentsOf path with
  | .ok bytes => .ok bytes
  | .error .notFound => .error (.moduleNotFound path)
  | .error fault => .error (.io fault.message)

/-- A decoder from a module file, which holds a binary. -/
def ofFile (loader : Loader σ ω) (config : EngineConfig) (path : String) :
    Loading ω (Decoder σ) := do
  let engine ← loader.createEngine config
  let bytes ← moduleBytes (loader.contentsOf (← get)) path
  let module ← Module.compile loader.cache.runtime engine loader.compiler .binary bytes
  return { engine, module }

/-- The failure to name any module. -/
def noModule : HostError :=
  .moduleNotFound
    "no decoder module configured (set runtime.decoder.module_path or CAPSTONE_WASM)"

/-- The decoder that a configuration asks for. Without a module to load, no engine is created. -/
def ofConfig (loader : Loader σ ω) (config : RuntimeConfig) : Loading ω (Decoder σ) :=
  match config.decoder.modulePathOr loader.environment with
  | none => throw noModule
  | some path => loader.ofFile config.engine path

/-- The configuration in a file. -/
def readConfig (contentsOf : FileReader) (path : String) : Except ConfigError Config :=
  match contentsOf path with
  | .error fault => .error (.unreadable path fault.message)
  | .ok bytes =>
    match Text.Utf8.decode? bytes with
    | none => .error (.unreadable path "stream did not contain valid UTF-8")
    | some text => Config.parse (String.ofList text)

end Loader

namespace Decoder

variable {σ : Type}

/-- The guest that the module is. -/
def guest (d : Decoder σ) : Guest σ := d.module.guest

/-- Check that the module exports all these functions; the first that is missing is reported. -/
def requireFunctions (d : Decoder σ) (names : List String) : Except HostError Unit :=
  match names.find? fun name => !d.guest.hasFunction name with
  | some missing => .error (.exportNotFound missing)
  | none => .ok ()

/-- Check that the module exports all functions of a disassembler. -/
def verify (d : Decoder σ) : Except HostError Unit :=
  d.requireFunctions Guest.requiredFunctions

/-- The decoder by its parts. -/
def debug (d : Decoder σ) : String :=
  s!"DecoderRuntime \x7b engine: {d.engine.debug}, module: {d.module.debug}, .. \x7d"

end Decoder

end DecoderHost

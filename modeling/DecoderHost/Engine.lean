import DecoderHost.Engine.Cache
import DecoderHost.HostError
import DecoderHost.Memory

/-!
Engines: the configuration under which modules are compiled and run, and the compilation cache if there is
one.
-/

namespace DecoderHost

namespace EngineConfig

/-- The number of pages a memory may grow to. -/
def pageLimit (config : EngineConfig) : Nat :=
  if config.poolingAllocator then config.poolMemoryBytes / Memory.pageSize else Memory.maxPages

/-- The number of instances that may live at once, if there is a limit. -/
def instanceLimit (config : EngineConfig) : Option Nat :=
  if config.poolingAllocator then some config.maxInstances.toNat else none

end EngineConfig

/-- An engine: its configuration, and the directory of the compilation cache if one is active. -/
structure Engine where
  config : EngineConfig
  cacheDir : Option String
  deriving DecidableEq, Repr

namespace Engine

variable {ω : Type}

/-- The failure of the runtime to create an engine. -/
def refusal (reason : String) : HostError := .invalidConfig ("Failed to create Wasmtime engine: " ++ reason)

/-- Create an engine. The cache is prepared first, and the engine does without it if that fails. -/
def create (steps : CacheSteps ω) (config : EngineConfig) (env : Environment) (world : ω) :
    Except HostError Engine × ω :=
  let ((cacheDir, setup), world) := steps.activate config env world
  match steps.runtime.newEngine setup with
  | .ok () => (.ok { config, cacheDir }, world)
  | .error reason => (.error (refusal reason), world)

/-- The engine by its parts. -/
def debug (engine : Engine) : String :=
  s!"WasmEngine \x7b pooling_allocator: {engine.config.poolingAllocator}, " ++
    s!"cache_dir: {Text.quotedOption engine.cacheDir}, .. \x7d"

end Engine

end DecoderHost

import DecoderHost.Config.Basic
import DecoderHost.Files

/-!
What the runtime is told before an engine is created: the limits of the pool, if instances are to be
pooled, and the settings of the compilation cache, once they have been loaded.

The runtime itself is given from outside. How it loads the settings of a cache, whether it creates an engine
with the settings it was given, and which memories that engine admits, is for it to decide.
-/

namespace DecoderHost

/-- The limits of a pool: how many instances it holds, and the largest memory of one in bytes. -/
structure PoolLimits where
  instances : Nat
  memoryBytes : Nat
  deriving DecidableEq, Repr

/-- The settings of the runtime. -/
structure EngineSetup where
  pool : Option PoolLimits := none
  cacheSettings : Option String := none
  deriving DecidableEq, Repr

namespace EngineConfig

/-- The largest memory an instance may have under the pooling allocator, in bytes. -/
def poolMemoryBytes (config : EngineConfig) : Nat :=
  config.instanceMemoryMb.toNat * 1048576

/-- The settings of the runtime that a configuration asks for, before there is a cache. -/
def setup (config : EngineConfig) : EngineSetup where
  pool :=
    if config.poolingAllocator then
      some { instances := config.maxInstances.toNat, memoryBytes := config.poolMemoryBytes }
    else none

end EngineConfig

/-- A step on files, which may fail and changes the state of the file system either way. -/
abbrev FileAction (ω α : Type) := ExceptT FileFault (StateM ω) α

/-- A step on files with the settings of the runtime at hand. What it did to them stays if it fails. -/
abbrev Preparation (ω α : Type) := ExceptT FileFault (StateT EngineSetup (StateM ω)) α

/-- A step on files leaves the settings of the runtime as they are. -/
instance {ω : Type} : MonadLift (FileAction ω) (Preparation ω) where
  monadLift action := fun setup world =>
    let (outcome, world) := action world
    ((outcome, setup), world)

/-- The runtime: how it loads the settings of a cache from a file, why it creates no engine with its settings if it
does not, and why it admits no memory that starts with some pages if it does not. -/
structure Runtime (ω : Type) where
  loadCache : String → Preparation ω Unit
  newEngine : EngineSetup → Except String Unit
  admitMemory : EngineSetup → Nat → Except String Unit

end DecoderHost

import DecoderHost.Engine.Reserving
import DecoderHost.Files.Tree
import DecoderHost.Toml.Writer

/-!
Preparing the directory of the compilation cache: the directory is made, its canonical path is taken, a
settings file that names this path is rendered, written into the directory, and loaded by the runtime. The first
step that fails ends the attempt, and the cache stays off; what was made by then stays.

The steps and the runtime are given from outside, over a state of any kind, so that what is said here holds of
every file system and every way in which the steps may fail.
-/

namespace DecoderHost

/-- The steps that prepare a cache, and the runtime that it is prepared for. -/
structure CacheSteps (ω : Type) where
  createDirectories : String → FileAction ω Unit
  canonicalise : String → FileAction ω String
  render : String → FileAction ω String
  write : String → String → FileAction ω Unit
  runtime : Runtime ω

/-- The settings that name a cache directory. -/
def cacheSettings (directory : String) : String :=
  s!"[cache]\nenabled = true\ndirectory = {Toml.writeString directory}\n"

/-- The name of the settings file. -/
def cacheSettingsFile : String := "wasmtime-cache.toml"

namespace CacheSteps

variable {ω : Type}

/-- Prepare the cache in a directory and tell the runtime of it; its canonical path. -/
def prepare (steps : CacheSteps ω) (directory : String) : Preparation ω String := do
  steps.createDirectories directory
  let canonical ← steps.canonicalise directory
  let settings ← steps.render canonical
  let path := Path.join canonical cacheSettingsFile
  steps.write path settings
  steps.runtime.loadCache path
  return canonical

/-- The active cache directory for a configuration, and the settings of the runtime with it: none if there
is no directory to use or it cannot be prepared. Without a directory no step is attempted. -/
def activate (steps : CacheSteps ω) (config : EngineConfig) (env : Environment) (world : ω) :
    (Option String × EngineSetup) × ω :=
  match config.resolveCacheDir env with
  | none => ((none, config.setup), world)
  | some directory =>
    let ((outcome, setup), world) := steps.prepare directory config.setup world
    ((outcome.toOption, setup), world)

/-- The steps of a host that keeps no caches: the first one fails and nothing changes. -/
def unavailable : CacheSteps ω where
  createDirectories _ := throw (.other "no caches are kept")
  canonicalise _ := throw (.other "no caches are kept")
  render _ := throw (.other "no caches are kept")
  write _ _ := throw (.other "no caches are kept")
  runtime := .reserving fun _ _ => .error (.other "no caches are kept")

/-- The steps on a file tree; settings that are there can be loaded. -/
def onTree : CacheSteps FileTree where
  createDirectories := FileTree.createDirectories
  canonicalise path := fun tree => (tree.canonical path, tree)
  render directory := fun tree => (.ok (cacheSettings directory), tree)
  write path settings := FileTree.write path settings.toUTF8.toList
  runtime := .reserving FileTree.read

end CacheSteps

end DecoderHost

import DecoderHost.Config.Basic
import DecoderHost.Config.Shape
import DecoderHost.HostError
import DecoderHost.Text.Utf8
import DecoderHost.Toml.Document

/-!
The configuration as a TOML document: the settings of each record with their keys, and reading a
configuration from a text or from the contents of a file.
-/

namespace DecoderHost

open Shape

/-- The settings of the engine. -/
def EngineConfig.settings : List (Setting EngineConfig) := [
  .of "pooling_allocator" readBoolean fun b config => { config with poolingAllocator := b },
  .of "max_instances" readWord fun n config => { config with maxInstances := n },
  .of "instance_memory_mb" readWord fun n config => { config with instanceMemoryMb := n },
  .of "cache_compiled_modules" readBoolean fun b config => { config with cacheCompiledModules := b },
  .of "cache_dir" readPath fun path config => { config with cacheDir := some path }]

/-- The settings of the decoder. -/
def DecoderConfig.settings : List (Setting DecoderConfig) := [
  .of "module_path" readPath fun path config => { config with modulePath := some path }]

/-- The settings of the runtime. -/
def RuntimeConfig.settings : List (Setting RuntimeConfig) := [
  .of "engine" (readRecord "EngineConfig" EngineConfig.settings {}) fun engine config =>
    { config with engine },
  .of "decoder" (readRecord "DecoderConfig" DecoderConfig.settings {}) fun decoder config =>
    { config with decoder }]

/-- The log formats by name. -/
def LogFormat.choices : List (String × LogFormat) :=
  [(LogFormat.text.name, .text), (LogFormat.json.name, .json)]

/-- The settings of the log. -/
def LogConfig.settings : List (Setting LogConfig) := [
  .of "filter" readText fun filter config => { config with filter },
  .of "format" (readChoice LogFormat.choices) fun format config => { config with format }]

/-- The settings of the whole configuration. -/
def Config.settings : List (Setting Config) := [
  .of "runtime" (readRecord "RuntimeConfig" RuntimeConfig.settings {}) fun runtime config =>
    { config with runtime },
  .of "log" (readRecord "LogConfig" LogConfig.settings {}) fun log config => { config with log }]

/-- Why there is no configuration. -/
inductive ConfigError where
  | unreadable (path reason : String)
  | malformed
  | misshapen (error : ShapeError)
  deriving DecidableEq, Repr

namespace ConfigError

/-- The wording of an error. -/
def message : ConfigError → String
  | unreadable path reason => s!"Failed to read config file '{path}': {reason}"
  | malformed => "Failed to parse config file: TOML parse error"
  | misshapen error => s!"Failed to parse config file: TOML parse error: {error.message}"

/-- The failures behind this one, outermost first. -/
def causes : ConfigError → List String
  | unreadable _ reason => [reason]
  | _ => []

end ConfigError

namespace Config

/-- The configuration in the entries of a document. -/
def ofEntries (entries : List (String × Toml.Value)) : Except ShapeError Config :=
  readEntries settings entries {}

/-- The configuration in a text. -/
def parse (text : String) : Except ConfigError Config :=
  match Toml.parse text with
  | none => .error .malformed
  | some entries =>
    match ofEntries entries with
    | .ok config => .ok config
    | .error e => .error (.misshapen e)

end Config

end DecoderHost

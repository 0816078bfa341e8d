import DecoderHost.Proofs.Config.Parts
import Mathlib.Data.List.Permutation

/-!
# A configuration is read as it is written

A configuration is written as three tables, of the engine, the decoder and the log. Their order, the order of the
settings in each and the blank lines between them are free, and so is what the format leaves free in every line.
-/

namespace DecoderHost

open Toml (Value Line Table SpellsLines)

/-! ## Configurations as they are written -/

/-- The settings of an engine with their values. A directory that is not configured is left out. -/
def EngineConfig.entries (config : EngineConfig) : List (String × Value) := [
  ("pooling_allocator", .boolean config.poolingAllocator),
  ("max_instances", .integer config.maxInstances.toNat),
  ("instance_memory_mb", .integer config.instanceMemoryMb.toNat),
  ("cache_compiled_modules", .boolean config.cacheCompiledModules)] ++
  (config.cacheDir.map fun path => ("cache_dir", .string path)).toList

/-- The settings of the decoder with their values. A path that is not configured is left out. -/
def DecoderConfig.entries (config : DecoderConfig) : List (String × Value) :=
  (config.modulePath.map fun path => ("module_path", .string path)).toList

/-- The settings of the log with their values. -/
def LogConfig.entries (config : LogConfig) : List (String × Value) :=
  [("filter", .string config.filter), ("format", .string config.format.name)]

/-- An order for the settings in each table of a configuration, and for the tables. -/
structure Config.Layout (config : Config) where
  engine : List (String × Value)
  decoder : List (String × Value)
  log : List (String × Value)
  tables : List Table
  engine_perm : engine.Perm config.runtime.engine.entries
  decoder_perm : decoder.Perm config.runtime.decoder.entries
  log_perm : log.Perm config.log.entries
  tables_perm : tables.Perm [⟨["runtime", "engine"], engine⟩, ⟨["runtime", "decoder"], decoder⟩, ⟨["log"], log⟩]

/-- The lines of a configuration that are not blank. -/
def Config.Layout.lines {config : Config} (layout : config.Layout) : List Line :=
  layout.tables.flatMap Table.lines

/-- A text that a configuration may be written as. -/
def Config.Written (config : Config) (text : String) : Prop :=
  ∃ (layout : config.Layout) (lines : List Line),
    lines.filter (fun line => !line.isBlank) = layout.lines ∧ SpellsLines text.toList lines

/-! ## Records -/

open Shape

theorem EngineConfig.nodup_keys (config : EngineConfig) : (config.entries.map Prod.fst).Nodup := by
  unfold entries
  cases config.cacheDir <;> simp

theorem DecoderConfig.nodup_keys (config : DecoderConfig) : (config.entries.map Prod.fst).Nodup := by
  unfold entries
  cases config.modulePath <;> simp

theorem LogConfig.nodup_keys (config : LogConfig) : (config.entries.map Prod.fst).Nodup := by
  simp [entries]

/-- The settings of an engine are read in any order. -/
theorem EngineConfig.readEntries_perm {config : EngineConfig} {written : List (String × Value)}
    (h : written.Perm config.entries) : readEntries settings written {} = .ok config := by
  have hkeys := (h.map Prod.fst).nodup_iff.mpr config.nodup_keys
  rw [readEntries_eq_ok_iff hkeys]
  simp only [Toml.lookup_perm h hkeys]
  obtain ⟨pooling, instances, memory, cache, directory⟩ := config
  refine ⟨.present rfl, .present rfl, .present rfl, .present rfl, ?_⟩
  cases directory with
  | none => exact .absent
  | some path => exact .present ⟨path, rfl, rfl⟩

theorem DecoderConfig.readEntries_perm {config : DecoderConfig} {written : List (String × Value)}
    (h : written.Perm config.entries) : readEntries settings written {} = .ok config := by
  have hkeys := (h.map Prod.fst).nodup_iff.mpr config.nodup_keys
  rw [readEntries_eq_ok_iff hkeys]
  simp only [Toml.lookup_perm h hkeys]
  obtain ⟨_ | path⟩ := config
  · exact .absent
  · exact .present ⟨path, rfl, rfl⟩

theorem LogConfig.readEntries_perm {config : LogConfig} {written : List (String × Value)}
    (h : written.Perm config.entries) : readEntries settings written {} = .ok config := by
  have hkeys := (h.map Prod.fst).nodup_iff.mpr config.nodup_keys
  rw [readEntries_eq_ok_iff hkeys]
  simp only [Toml.lookup_perm h hkeys]
  exact ⟨.present rfl, .present (.name _)⟩

/-- The engine and the decoder stand in tables, one before the other. -/
theorem RuntimeConfig.readEntries_perm {config : RuntimeConfig} {engine decoder written : List (String × Value)}
    (hengine : engine.Perm config.engine.entries) (hdecoder : decoder.Perm config.decoder.entries)
    (h : written.Perm [("engine", .table engine), ("decoder", .table decoder)]) :
    readEntries settings written {} = .ok config := by
  have hkeys := (h.map Prod.fst).nodup_iff.mpr (by simp)
  have hengineAt : written.lookup "engine" = some (.table engine) := Toml.lookup_perm h hkeys _
  have hdecoderAt : written.lookup "decoder" = some (.table decoder) := Toml.lookup_perm h hkeys _
  rw [readEntries_eq_ok_iff hkeys (hengineAt ▸ tabular_table engine) (hdecoderAt ▸ tabular_table decoder),
    hengineAt, hdecoderAt]
  exact ⟨EngineConfig.readEntries_perm hengine, DecoderConfig.readEntries_perm hdecoder⟩

/-- The runtime and the log stand in tables, one before the other. -/
theorem Config.readEntries_perm {config : Config} {engine decoder runtime log written : List (String × Value)}
    (hengine : engine.Perm config.runtime.engine.entries) (hdecoder : decoder.Perm config.runtime.decoder.entries)
    (hlog : log.Perm config.log.entries)
    (hruntime : runtime.Perm [("engine", .table engine), ("decoder", .table decoder)])
    (h : written.Perm [("runtime", .table runtime), ("log", .table log)]) :
    ofEntries written = .ok config := by
  have hkeys := (h.map Prod.fst).nodup_iff.mpr (by simp)
  have hruntimeAt : written.lookup "runtime" = some (.table runtime) := Toml.lookup_perm h hkeys _
  have hlogAt : written.lookup "log" = some (.table log) := Toml.lookup_perm h hkeys _
  rw [ofEntries, readEntries_eq_ok_iff hkeys (hruntimeAt ▸ tabular_table runtime) (hlogAt ▸ tabular_table log),
    hruntimeAt, hlogAt]
  exact ⟨RuntimeConfig.readEntries_perm hengine hdecoder hruntime, LogConfig.readEntries_perm hlog⟩

/-! ## Documents -/

/-- The third of three may stand anywhere, and the other two in either order. -/
theorem eq_or_of_perm_three {α : Type} {l : List α} {a b c : α} (h : l.Perm [a, b, c]) :
    (l = [a, b, c] ∨ l = [a, c, b] ∨ l = [c, a, b]) ∨ (l = [b, a, c] ∨ l = [b, c, a] ∨ l = [c, b, a]) := by
  have hmem : l = [a, b, c] ∨ l = [b, a, c] ∨ l = [c, b, a] ∨ l = [b, c, a] ∨ l = [c, a, b] ∨ l = [a, c, b] := by
    simpa [List.permutations, List.permutationsAux, List.permutationsAux.rec, List.permutationsAux2] using
      List.mem_permutations.mpr h
  tauto

/-- The entries of a document whose tables are two in the table `runtime` and the log. -/
theorem turns_runtime {a b : String} (hab : b ≠ a) {first second log : List (String × Value)}
    (hfirst : (first.map Prod.fst).Nodup) (hsecond : (second.map Prod.fst).Nodup) (hlog : (log.map Prod.fst).Nodup)
    {tables : List Table}
    (h : tables = [⟨["runtime", a], first⟩, ⟨["runtime", b], second⟩, ⟨["log"], log⟩] ∨
      tables = [⟨["runtime", a], first⟩, ⟨["log"], log⟩, ⟨["runtime", b], second⟩] ∨
      tables = [⟨["log"], log⟩, ⟨["runtime", a], first⟩, ⟨["runtime", b], second⟩]) :
    ∃ root, Toml.Turns (tables.flatMap Table.lines) [] root ∧
      (Toml.Node.entryValues root).Perm
        [("runtime", .table [(a, .table first), (b, .table second)]), ("log", .table log)] := by
  have hnew : List.lookup b [(a, Toml.Node.table false false (Toml.values first))] = none := by
    rw [List.lookup_cons, beq_false_of_ne hab]
    rfl
  rcases h with rfl | rfl | rfl
  · have h1 : Toml.Turns _ [] _ := Toml.turns_outer "runtime" a hfirst rfl
    have h2 := h1.append (Toml.turns_inner "runtime" b hsecond rfl hnew)
    have h3 := h2.append (Toml.turns_key "log" hlog rfl)
    refine ⟨_, by simpa using h3, ?_⟩
    simp [Toml.Entries.replace, Toml.Node.entryValues, Toml.Node.toValue, Toml.entryValues_values]
  · have h1 : Toml.Turns _ [] _ := Toml.turns_outer "runtime" a hfirst rfl
    have h2 := h1.append (Toml.turns_key "log" hlog rfl)
    have h3 := h2.append (Toml.turns_inner "runtime" b hsecond rfl hnew)
    refine ⟨_, by simpa using h3, ?_⟩
    simp [Toml.Entries.replace, Toml.Node.entryValues, Toml.Node.toValue, Toml.entryValues_values]
  · have h1 : Toml.Turns _ [] _ := Toml.turns_key "log" hlog rfl
    have h2 := h1.append (Toml.turns_outer "runtime" a hfirst rfl)
    have h3 := h2.append (Toml.turns_inner "runtime" b hsecond rfl hnew)
    refine ⟨_, by simpa using h3, ?_⟩
    simp [Toml.Entries.replace, Toml.Node.entryValues, Toml.Node.toValue, Toml.entryValues_values, List.Perm.swap]

/-- The tables of a configuration make a document with its entries. -/
theorem Config.Layout.turns {config : Config} (layout : config.Layout) :
    ∃ root, Toml.Turns layout.lines [] root ∧ ofEntries (Toml.Node.entryValues root) = .ok config := by
  obtain ⟨engine, decoder, log, tables, hengine, hdecoder, hlog, htables⟩ := layout
  have hengineKeys := (hengine.map Prod.fst).nodup_iff.mpr config.runtime.engine.nodup_keys
  have hdecoderKeys := (hdecoder.map Prod.fst).nodup_iff.mpr config.runtime.decoder.nodup_keys
  have hlogKeys := (hlog.map Prod.fst).nodup_iff.mpr config.log.nodup_keys
  rcases eq_or_of_perm_three htables with h | h
  · obtain ⟨root, hroot, hperm⟩ := turns_runtime (by decide) hengineKeys hdecoderKeys hlogKeys h
    exact ⟨root, hroot, readEntries_perm hengine hdecoder hlog (.refl _) hperm⟩
  · obtain ⟨root, hroot, hperm⟩ := turns_runtime (by decide) hdecoderKeys hengineKeys hlogKeys h
    exact ⟨root, hroot, readEntries_perm hengine hdecoder hlog (.swap ..) hperm⟩

/-! ## Every configuration can be written -/

/-- The settings in the order in which they are declared. -/
def Config.layout (config : Config) : config.Layout where
  engine := config.runtime.engine.entries
  decoder := config.runtime.decoder.entries
  log := config.log.entries
  tables := [⟨["runtime", "engine"], config.runtime.engine.entries⟩,
    ⟨["runtime", "decoder"], config.runtime.decoder.entries⟩, ⟨["log"], config.log.entries⟩]
  engine_perm := .refl _
  decoder_perm := .refl _
  log_perm := .refl _
  tables_perm := .refl _

theorem EngineConfig.writable (config : EngineConfig) : ∀ setting ∈ config.entries, Toml.Writable setting := by
  unfold entries
  simp only [List.forall_mem_append, List.forall_mem_cons]
  exact ⟨⟨.boolean (by decide) _, .word (by decide) _, .word (by decide) _, .boolean (by decide) _,
    List.forall_mem_nil _⟩, Toml.writable_toList (by decide) _⟩

theorem DecoderConfig.writable (config : DecoderConfig) : ∀ setting ∈ config.entries, Toml.Writable setting :=
  Toml.writable_toList (by decide) _

theorem LogConfig.writable (config : LogConfig) : ∀ setting ∈ config.entries, Toml.Writable setting := by
  unfold entries
  simp only [List.forall_mem_cons]
  exact ⟨.string (by decide) _, .string (by decide) _, List.forall_mem_nil _⟩

theorem isPath_engine : Toml.IsPath ["runtime", "engine"] := ⟨by simp, by simp [Toml.depthLimit], by decide⟩

theorem isPath_decoder : Toml.IsPath ["runtime", "decoder"] := ⟨by simp, by simp [Toml.depthLimit], by decide⟩

theorem isPath_log : Toml.IsPath ["log"] := ⟨by simp, by simp [Toml.depthLimit], by decide⟩

theorem Config.exists_written (config : Config) : ∃ text, config.Written text := by
  have hlines : ∀ line ∈ config.layout.lines, ∃ text, Toml.SpellsLine text line := by
    intro line hline
    obtain ⟨table, htable, hline⟩ := List.mem_flatMap.mp hline
    simp only [Config.layout, List.mem_cons, List.not_mem_nil, or_false] at htable
    rcases htable with rfl | rfl | rfl
    · exact Toml.exists_spellsTable isPath_engine config.runtime.engine.writable line hline
    · exact Toml.exists_spellsTable isPath_decoder config.runtime.decoder.writable line hline
    · exact Toml.exists_spellsTable isPath_log config.log.writable line hline
  have hfilled : config.layout.lines.filter (fun line => !line.isBlank) = config.layout.lines := by
    refine List.filter_eq_self.mpr fun line hline => ?_
    obtain ⟨table, -, hline⟩ := List.mem_flatMap.mp hline
    rcases List.mem_cons.mp hline with rfl | hline
    · rfl
    · obtain ⟨setting, -, rfl⟩ := List.mem_map.mp hline
      rfl
  obtain ⟨text, htext⟩ := Toml.exists_spellsLines hlines
  exact ⟨String.ofList text, config.layout, _, hfilled, by rwa [String.toList_ofList]⟩

/-- **Configurations are read as they are written.** Every configuration can be written as a text, and from any such
text it is read back. -/
theorem Config.parse_written (config : Config) :
    (∃ text, config.Written text) ∧ ∀ text, config.Written text → Config.parse text = .ok config := by
  refine ⟨config.exists_written, ?_⟩
  rintro text ⟨layout, lines, hlines, htext⟩
  obtain ⟨root, hroot, hconfig⟩ := layout.turns
  rw [← hlines] at hroot
  rw [Config.parse, htext.parse_of_turns hroot]
  dsimp only
  rw [hconfig]

/-- A configuration whose texts need escapes, and whose numbers are the least and the greatest. -/
def Config.awkward : Config where
  runtime := {
    engine := {
      poolingAllocator := true, maxInstances := 0, instanceMemoryMb := 4294967295, cacheCompiledModules := false,
      cacheDir := some "" } }
  log := { filter := "\"\\\x07é", format := .json }

/-- A text for it line by line. Tables and settings stand in an order of their own. -/
def Config.awkwardText : List String := [
  "\n", "[log]\r\n", "format = \"json\"\n", "\tfilter=\"\\\"\\\\\\u0007é\"\n", "[runtime.decoder]\n", "\n",
  "[runtime.engine] \n", "cache_dir = \"\"\n", "pooling_allocator = true\n", "max_instances = 0\n",
  "instance_memory_mb = 4294967295\n", "cache_compiled_modules = false\n"]

/-- The settings of the engine and of the log in the order of that text. -/
def Config.awkwardLayout : awkward.Layout where
  engine := ("cache_dir", .string "") :: awkward.runtime.engine.entries.take 4
  decoder := []
  log := awkward.log.entries.reverse
  tables := [⟨["log"], awkward.log.entries.reverse⟩, ⟨["runtime", "decoder"], []⟩,
    ⟨["runtime", "engine"], ("cache_dir", .string "") :: awkward.runtime.engine.entries.take 4⟩]
  engine_perm := (List.perm_append_comm : List.Perm ([_] ++ _) _)
  decoder_perm := .refl _
  log_perm := List.reverse_perm _
  tables_perm := (List.reverse_perm _ : List.Perm (List.reverse [_, _, _]) _)

theorem Config.parse_written_awkward :
    Config.parse (String.ofList (awkwardText.flatMap String.toList)) = .ok awkward := by
  have hnone : Toml.IsBlanks [] := by simp [Toml.IsBlanks]
  have hspace : Toml.IsBlanks [' '] := by simp [Toml.IsBlanks]
  have htab : Toml.IsBlanks ['\t'] := by simp [Toml.IsBlanks]
  have hquote : Toml.SpellsChar ['\\', '"'] '"' := .short (by decide)
  have hbackslash : Toml.SpellsChar ['\\', '\\'] '\\' := .short (by decide)
  have hbell : Toml.SpellsChar ['\\', 'u', '0', '0', '0', '7'] '\x07' :=
    .code rfl ⟨[0, 0, 0, 7], .cons (.inl rfl) (.cons (.inl rfl) (.cons (.inl rfl) (.cons (.inl rfl) .nil))), rfl⟩
  have hplain : Toml.SpellsText ['é'] ['é'] := .plain (by decide)
  have hfilter : Toml.SpellsText _ awkward.log.filter.toList :=
    .cons hquote (.cons hbackslash (.cons hbell hplain))
  have hformat : Toml.SpellsText _ "json".toList := .plain (by decide)
  have hempty : Toml.SpellsText [] "".toList := .nil
  have hlines : SpellsLines (awkwardText.flatMap String.toList) _ :=
    .cons (.blank hnone .lineFeed) <|
    .cons (.header hnone isPath_log hnone .carriageReturn) <|
    .cons (.setting "format" hnone (by decide) hspace hspace (.string hformat) hnone .lineFeed) <|
    .cons (.setting "filter" htab (by decide) hnone hnone (.string hfilter) hnone .lineFeed) <|
    .cons (.header hnone isPath_decoder hnone .lineFeed) <|
    .cons (.blank hnone .lineFeed) <|
    .cons (.header hnone isPath_engine hspace .lineFeed) <|
    .cons (.setting "cache_dir" hnone (by decide) hspace hspace (.string hempty) hnone .lineFeed) <|
    .cons (.setting "pooling_allocator" hnone (by decide) hspace hspace (.boolean true) hnone .lineFeed) <|
    .cons (.setting "max_instances" hnone (by decide) hspace hspace (.integer (0 : UInt32).toNat (by decide))
      hnone .lineFeed) <|
    .cons (.setting "instance_memory_mb" hnone (by decide) hspace hspace
      (.integer (4294967295 : UInt32).toNat (by decide)) hnone .lineFeed) <|
    .cons (.setting "cache_compiled_modules" hnone (by decide) hspace hspace (.boolean false) hnone .lineFeed) .nil
  have htext : (String.ofList (awkwardText.flatMap String.toList)).toList = awkwardText.flatMap String.toList :=
    String.toList_ofList
  rw [← htext] at hlines
  exact (Config.parse_written awkward).2 _ ⟨awkwardLayout, _, rfl, hlines⟩

end DecoderHost

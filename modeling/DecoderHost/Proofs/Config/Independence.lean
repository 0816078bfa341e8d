import DecoderHost.Proofs.Config.Parts

/-!
# Settings are independent

A document in which the log, the runtime, the engine and the decoder are tables or left out is a configuration
just when each of the eight settings that are known has a value of its kind or none, and then every setting is
what its own value says, or its default (`Config.Tells`). So two documents that agree in these settings are the
same configuration or none, whatever else they hold and however they are spelled (`Config.parse_independent`). That is
said of documents as the reader knows them: it has bounds on numbers and on nesting, and refuses a text that goes
beyond them anywhere (`Config.parse_beyond_reader`).
-/

namespace DecoderHost

open Toml (Value)
open Shape

/-! ## Settings of a document -/

/-- The settings that are known. -/
inductive KnownSetting where
  | logFilter | logFormat | modulePath
  | poolingAllocator | maxInstances | instanceMemoryMb | cacheCompiledModules | cacheDir
  deriving DecidableEq, Repr

namespace KnownSetting

/-- All of them. -/
def all : List KnownSetting :=
  [logFilter, logFormat, modulePath, poolingAllocator, maxInstances, instanceMemoryMb, cacheCompiledModules,
    cacheDir]

theorem mem_all (setting : KnownSetting) : setting ∈ all := by
  cases setting <;> decide

/-- The path of a setting in a document. -/
def path : KnownSetting → List String
  | logFilter => ["log", "filter"]
  | logFormat => ["log", "format"]
  | modulePath => ["runtime", "decoder", "module_path"]
  | poolingAllocator => ["runtime", "engine", "pooling_allocator"]
  | maxInstances => ["runtime", "engine", "max_instances"]
  | instanceMemoryMb => ["runtime", "engine", "instance_memory_mb"]
  | cacheCompiledModules => ["runtime", "engine", "cache_compiled_modules"]
  | cacheDir => ["runtime", "engine", "cache_dir"]

/-- The value of a setting in a document, if there is one. -/
def value? (setting : KnownSetting) (document : List (String × Value)) : Option Value :=
  (Value.table document).at? setting.path

end KnownSetting

namespace Config

/-- The log, the runtime, the engine and the decoder are tables or left out. -/
def Shaped (document : List (String × Value)) : Prop :=
  ∀ path ∈ [["log"], ["runtime"], ["runtime", "engine"], ["runtime", "decoder"]],
    Tabular ((Value.table document).at? path)

instance (document : List (String × Value)) : Decidable (Shaped document) :=
  inferInstanceAs (Decidable (∀ path ∈ _, _))

/-- **What a document tells.** Every setting of the configuration is what its own value in the document
denotes, and its default if it has none. -/
structure Tells (document : List (String × Value)) (config : Config) : Prop where
  logFilter : Given DenotesText "warn,capstone_wasm=info" (KnownSetting.logFilter.value? document)
    config.log.filter
  logFormat : Given DenotesFormat .text (KnownSetting.logFormat.value? document) config.log.format
  modulePath : Given DenotesPath none (KnownSetting.modulePath.value? document)
    config.runtime.decoder.modulePath
  poolingAllocator : Given DenotesBoolean false (KnownSetting.poolingAllocator.value? document)
    config.runtime.engine.poolingAllocator
  maxInstances : Given DenotesNumber 64 (KnownSetting.maxInstances.value? document)
    config.runtime.engine.maxInstances
  instanceMemoryMb : Given DenotesNumber 64 (KnownSetting.instanceMemoryMb.value? document)
    config.runtime.engine.instanceMemoryMb
  cacheCompiledModules : Given DenotesBoolean true (KnownSetting.cacheCompiledModules.value? document)
    config.runtime.engine.cacheCompiledModules
  cacheDir : Given DenotesPath none (KnownSetting.cacheDir.value? document) config.runtime.engine.cacheDir

variable {document document' : List (String × Value)} {config : Config}

/-- The entries of a table of a document have every key once. -/
theorem nodup_at? (h : Value.Distinct (.table document)) (path : List String) :
    ((entriesOf ((Value.table document).at? path)).map Prod.fst).Nodup :=
  nodup_entriesOf fun _ hat => h.at? hat

/-- What stands at the top of a document. -/
theorem at?_key (document : List (String × Value)) (key : String) :
    (Value.table document).at? [key] = document.lookup key := by
  show ((document.lookup key).bind fun inner => some inner) = _
  cases List.lookup key document <;> rfl

/-- The log is read from its table. -/
theorem readLog_eq_ok_iff (hdistinct : Value.Distinct (.table document))
    (hlog : Tabular ((Value.table document).at? ["log"])) {log : LogConfig} :
    readEntries LogConfig.settings (entriesOf ((Value.table document).at? ["log"])) {} = .ok log ↔
      Given DenotesText "warn,capstone_wasm=info" (KnownSetting.logFilter.value? document) log.filter ∧
      Given DenotesFormat .text (KnownSetting.logFormat.value? document) log.format := by
  rw [LogConfig.readEntries_eq_ok_iff (nodup_at? hdistinct _), lookup_entriesOf hlog, lookup_entriesOf hlog]
  rfl

/-- The decoder is read from its table. -/
theorem readDecoder_eq_ok_iff (hdistinct : Value.Distinct (.table document))
    (hdecoder : Tabular ((Value.table document).at? ["runtime", "decoder"])) {decoder : DecoderConfig} :
    readEntries DecoderConfig.settings (entriesOf ((Value.table document).at? ["runtime", "decoder"])) {} =
        .ok decoder ↔
      Given DenotesPath none (KnownSetting.modulePath.value? document) decoder.modulePath := by
  rw [DecoderConfig.readEntries_eq_ok_iff (nodup_at? hdistinct _), lookup_entriesOf hdecoder]
  rfl

/-- The engine is read from its table. -/
theorem readEngine_eq_ok_iff (hdistinct : Value.Distinct (.table document))
    (hengine : Tabular ((Value.table document).at? ["runtime", "engine"])) {engine : EngineConfig} :
    readEntries EngineConfig.settings (entriesOf ((Value.table document).at? ["runtime", "engine"])) {} =
        .ok engine ↔
      Given DenotesBoolean false (KnownSetting.poolingAllocator.value? document) engine.poolingAllocator ∧
      Given DenotesNumber 64 (KnownSetting.maxInstances.value? document) engine.maxInstances ∧
      Given DenotesNumber 64 (KnownSetting.instanceMemoryMb.value? document) engine.instanceMemoryMb ∧
      Given DenotesBoolean true (KnownSetting.cacheCompiledModules.value? document)
        engine.cacheCompiledModules ∧
      Given DenotesPath none (KnownSetting.cacheDir.value? document) engine.cacheDir := by
  rw [EngineConfig.readEntries_eq_ok_iff (nodup_at? hdistinct _)]
  simp only [lookup_entriesOf hengine]
  rfl

/-- A document is read as what it tells. -/
theorem ofEntries_eq_ok_iff (hdistinct : Value.Distinct (.table document)) (hshaped : Shaped document) :
    ofEntries document = .ok config ↔ Tells document config := by
  obtain ⟨hlog, hruntime, hengine, hdecoder⟩ :
      Tabular ((Value.table document).at? ["log"]) ∧ Tabular ((Value.table document).at? ["runtime"]) ∧
      Tabular ((Value.table document).at? ["runtime", "engine"]) ∧
      Tabular ((Value.table document).at? ["runtime", "decoder"]) := by
    simpa [Shaped] using hshaped
  have htop (key : String) : document.lookup key = (Value.table document).at? [key] :=
    (at?_key document key).symm
  have hbelow (key : String) : (entriesOf ((Value.table document).at? ["runtime"])).lookup key =
      (Value.table document).at? ["runtime", key] := lookup_entriesOf hruntime key
  have hdocument : ofEntries document = .ok config ↔
      readEntries RuntimeConfig.settings (entriesOf ((Value.table document).at? ["runtime"])) {} =
        .ok config.runtime ∧
      readEntries LogConfig.settings (entriesOf ((Value.table document).at? ["log"])) {} = .ok config.log := by
    rw [← htop, ← htop]
    exact readEntries_eq_ok_iff (nodup_at? hdistinct []) (htop _ ▸ hruntime) (htop _ ▸ hlog)
  rw [hdocument, RuntimeConfig.readEntries_eq_ok_iff (nodup_at? hdistinct _) (hbelow _ ▸ hengine)
    (hbelow _ ▸ hdecoder), hbelow, hbelow, readEngine_eq_ok_iff hdistinct hengine,
    readDecoder_eq_ok_iff hdistinct hdecoder, readLog_eq_ok_iff hdistinct hlog]
  constructor
  · intro h
    obtain ⟨⟨⟨hpooling, hinstances, hmemory, hcache, hdirectory⟩, hpath⟩, hfilter, hformat⟩ := h
    exact ⟨hfilter, hformat, hpath, hpooling, hinstances, hmemory, hcache, hdirectory⟩
  · intro h
    exact ⟨⟨⟨h.poolingAllocator, h.maxInstances, h.instanceMemoryMb, h.cacheCompiledModules, h.cacheDir⟩,
      h.modulePath⟩, h.logFilter, h.logFormat⟩

end Config

/-! ## Values that are the same -/

namespace Shape

/-- What a value denotes is denoted by every value that is the same. -/
def Respects {β : Type} (denotes : Value → β → Prop) : Prop :=
  ∀ value other b, value.Same other → other.Distinct → denotes value b → denotes other b

theorem respects_boolean : Respects DenotesBoolean := by
  intro value other b hsame _ hvalue
  subst hvalue
  exact hsame.eq_boolean

theorem respects_number : Respects DenotesNumber := by
  intro value other n hsame _ hvalue
  subst hvalue
  exact hsame.eq_integer

theorem respects_text : Respects DenotesText := by
  intro value other text hsame _ hvalue
  subst hvalue
  exact hsame.eq_string

theorem respects_path : Respects DenotesPath := by
  intro value other path? hsame _ hvalue
  obtain ⟨path, rfl, hpath⟩ := hvalue
  exact ⟨path, hsame.eq_string, hpath⟩

theorem respects_format : Respects DenotesFormat := by
  intro value other format hsame hdistinct hvalue
  cases hvalue with
  | name =>
    rw [hsame.eq_string]
    exact .name format
  | key _ hempty =>
    obtain ⟨content, rfl, hcontent⟩ := hsame.eq_singleton hdistinct
    exact .key format (hcontent.isEmpty hempty)

/-- What is given by one value is given by another that is the same. -/
theorem Given.of_same {β : Type} {denotes : Value → β → Prop} (hdenotes : Respects denotes) {default b : β}
    {value? other? : Option Value} (hsame : Option.Rel Value.Same value? other?)
    (hdistinct : ∀ other, other? = some other → other.Distinct) (h : Given denotes default value? b) :
    Given denotes default other? b := by
  cases hsame with
  | none => exact h
  | some hsame =>
    rw [given_some_iff] at h ⊢
    exact hdenotes _ _ _ hsame (hdistinct _ rfl) h

end Shape

namespace Config

variable {document document' : List (String × Value)} {config : Config}

/-- Two documents agree in the settings that are known. -/
def Agree (document document' : List (String × Value)) : Prop :=
  ∀ setting : KnownSetting, Option.Rel Value.Same (setting.value? document) (setting.value? document')

theorem Agree.symm (h : Agree document document') : Agree document' document := by
  intro setting
  have hsetting := h setting
  generalize setting.value? document = value?, setting.value? document' = other? at hsetting ⊢
  cases hsetting with
  | none => exact .none
  | some hsame => exact .some hsame.symm

/-- What a document tells is told by every document that agrees with it. -/
theorem Tells.of_agree (h : Tells document config) (hagree : Agree document document')
    (hdistinct : Value.Distinct (.table document')) : Tells document' config := by
  have hvalue (setting : KnownSetting) :
      ∀ value, setting.value? document' = some value → value.Distinct := fun _ hat => hdistinct.at? hat
  constructor
  · exact h.logFilter.of_same respects_text (hagree _) (hvalue _)
  · exact h.logFormat.of_same respects_format (hagree _) (hvalue _)
  · exact h.modulePath.of_same respects_path (hagree _) (hvalue _)
  · exact h.poolingAllocator.of_same respects_boolean (hagree _) (hvalue _)
  · exact h.maxInstances.of_same respects_number (hagree _) (hvalue _)
  · exact h.instanceMemoryMb.of_same respects_number (hagree _) (hvalue _)
  · exact h.cacheCompiledModules.of_same respects_boolean (hagree _) (hvalue _)
  · exact h.cacheDir.of_same respects_path (hagree _) (hvalue _)

/-- A text that is a document is accepted as what the document tells. -/
theorem parse_eq_ok_iff {text : String} (h : Toml.parse text = some document) (hshaped : Shaped document) :
    parse text = .ok config ↔ Tells document config := by
  rw [← ofEntries_eq_ok_iff (Toml.parse_distinct h) hshaped]
  unfold parse
  rw [h]
  dsimp only
  cases ofEntries document <;> simp

/-- **Settings are independent.** Let two texts be documents in which the log, the runtime, the engine and the
decoder are tables or left out. If each of the eight known settings is absent from both or has the same value
in both, one is accepted just when the other is, as the same configuration. And each is accepted as what it
tells: every setting is what its own value denotes, or its default without one, whatever the others are. -/
theorem parse_independent {text text' : String} (h : Toml.parse text = some document)
    (h' : Toml.parse text' = some document') (hshaped : Shaped document) (hshaped' : Shaped document')
    (hagree : Agree document document') :
    (∀ config, parse text = .ok config ↔ parse text' = .ok config) ∧
      ∀ config, parse text = .ok config ↔ Tells document config := by
  refine ⟨fun config => ?_, fun config => parse_eq_ok_iff h hshaped⟩
  rw [parse_eq_ok_iff h hshaped, parse_eq_ok_iff h' hshaped']
  constructor
  · intro htells
    exact htells.of_agree hagree (Toml.parse_distinct h')
  · intro htells
    exact htells.of_agree hagree.symm (Toml.parse_distinct h)

/-! ## Two spellings -/

/-- Values that are found to be equal, and are neither lists nor tables, are the same. -/
theorem same_of_found {value other : Value} (h : Found.ofValue value = Found.ofValue other)
    (hsequence : Found.ofValue value ≠ .sequence) (hmap : Found.ofValue value ≠ .map) : value.Same other := by
  cases value <;> cases other <;> simp_all [Found.ofValue] <;> constructor

/-- In each of the known settings the same is found, and no list or table. -/
def FoundAlike (document document' : List (String × Value)) : Prop :=
  ∀ setting ∈ KnownSetting.all,
    (setting.value? document).map Found.ofValue = (setting.value? document').map Found.ofValue ∧
      (setting.value? document).map Found.ofValue ≠ some .sequence ∧
      (setting.value? document).map Found.ofValue ≠ some .map

instance (document document' : List (String × Value)) : Decidable (FoundAlike document document') :=
  inferInstanceAs (Decidable (∀ setting ∈ _, _))

theorem FoundAlike.agree (h : FoundAlike document document') : Agree document document' := by
  intro setting
  obtain ⟨hfound, hsequence, hmap⟩ := h setting setting.mem_all
  generalize setting.value? document = value?, setting.value? document' = other? at *
  cases value? with
  | none =>
    obtain rfl := Option.map_eq_none_iff.mp hfound.symm
    exact .none
  | some value =>
    obtain ⟨other, rfl, hother⟩ := Option.map_eq_some_iff.mp hfound.symm
    exact .some (same_of_found hother.symm (by simpa using hsequence) (by simpa using hmap))

/-- Two settings under headers. -/
def headedText : String := "[runtime.engine]\nmax_instances = 8\n[log]\nformat = 'json'\n"

/-- The same settings, one in braces and the other under a dotted key, and something else. -/
def dottedText : String := "log = \x7bformat = 'json'\x7d\nx = [1979-05-27]\nruntime.engine.max_instances = 0x8\n"

theorem parse_independent_dotted :
    (∀ config, parse headedText = .ok config ↔ parse dottedText = .ok config) ∧
      (parse dottedText).toOption =
        some { runtime := { engine := { maxInstances := 8 } }, log := { format := .json } } := by
  have hread : (Toml.parse headedText).isSome ∧ (Toml.parse dottedText).isSome := by decide +kernel
  have halike : ∀ document ∈ Toml.parse headedText, ∀ document' ∈ Toml.parse dottedText,
      Shaped document ∧ Shaped document' ∧ FoundAlike document document' := by decide +kernel
  obtain ⟨document, h⟩ := Option.isSome_iff_exists.mp hread.1
  obtain ⟨document', h'⟩ := Option.isSome_iff_exists.mp hread.2
  obtain ⟨hshaped, hshaped', hfound⟩ := halike document h document' h'
  exact ⟨(parse_independent h h' hshaped hshaped' hfound.agree).1, by decide +kernel⟩

/-- **What is beyond the reader is refused.** A text that has no setting is the default configuration, and so it is with
a number under an unknown key; but not if the number is too large for the reader. -/
theorem parse_beyond_reader :
    parse "" = .ok {} ∧ parse "x = 1e308\n" = .ok {} ∧ parse "x = 1e400\n" = .error .malformed := by
  decide +kernel

end Config

end DecoderHost

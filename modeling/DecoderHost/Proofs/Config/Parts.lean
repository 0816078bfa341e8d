import DecoderHost.Config.Document
import DecoderHost.Proofs.Toml.Same
import Mathlib.Data.List.Nodup
import Mathlib.Data.List.Pairwise

/-!
# Records part by part

A record is read from the entries of a table one after the other. If its parts do not touch each other and no
key comes twice, that is the same as looking up the key of each part: a part has the value under its key, and
its default if there is none (`readEntries_eq_ok_iff`). Neither the order of the entries nor entries under
other keys are of any account.
-/

namespace DecoderHost

open Toml (Value)

namespace Shape

variable {α β : Type}

/-- A part is what its value denotes, and its default without a value. -/
inductive Given (denotes : Value → β → Prop) (default : β) : Option Value → β → Prop
  | absent : Given denotes default none default
  | present {value : Value} {b : β} (hvalue : denotes value b) : Given denotes default (some value) b

theorem given_none_iff {denotes : Value → β → Prop} {default b : β} :
    Given denotes default none b ↔ b = default := by
  constructor
  · intro h
    cases h
    rfl
  · intro h
    subst h
    exact .absent

theorem given_some_iff {denotes : Value → β → Prop} {default b : β} {value : Value} :
    Given denotes default (some value) b ↔ denotes value b := by
  constructor
  · intro h
    cases h with
    | present hvalue => exact hvalue
  · exact .present

theorem given_congr {denotes denotes' : Value → β → Prop} {default b : β} {value? : Option Value}
    (h : ∀ value, denotes value b ↔ denotes' value b) :
    Given denotes default value? b ↔ Given denotes' default value? b := by
  cases value? with
  | none => rw [given_none_iff, given_none_iff]
  | some value => rw [given_some_iff, given_some_iff, h]

/-- A part of a record: its key, how its value is read, and where it is in the record. -/
structure Part (α : Type) where
  key : String
  Content : Type
  parse : Value → Except ShapeError Content
  get : α → Content
  put : Content → α → α

/-- The setting that a part is read by. -/
def Part.setting (part : Part α) : Setting α := .of part.key part.parse part.put

/-- A value is read as the content of a part. -/
def Part.Reads (part : Part α) (value : Value) (content : part.Content) : Prop :=
  part.parse value = .ok content

/-- Neither of two parts touches the other. -/
def Part.Apart (part other : Part α) : Prop :=
  (∀ content record, other.get (part.put content record) = other.get record) ∧
    ∀ content record, part.get (other.put content record) = part.get record

instance : Std.Symm (@Part.Apart α) := ⟨fun _ _ h => h.symm⟩

/-- Parts do not touch each other, and are all there is to a record. -/
structure Independent (parts : List (Part α)) : Prop where
  unique : ∀ part ∈ parts, ∀ other ∈ parts, other.key = part.key → other = part
  get_put : ∀ part ∈ parts, ∀ content record, part.get (part.put content record) = content
  get_put_of_ne : ∀ part ∈ parts, ∀ other ∈ parts, other.key ≠ part.key → ∀ content record,
    other.get (part.put content record) = other.get record
  ext : ∀ record record', (∀ part ∈ parts, part.get record = part.get record') → record = record'

variable {parts : List (Part α)}

/-- Parts are independent if their keys differ, each is at a place of its own, and putting all of them makes up the
record. -/
theorem Independent.of_places (hkeys : (parts.map Part.key).Nodup)
    (hput : ∀ part ∈ parts, ∀ content record, part.get (part.put content record) = content)
    (hapart : parts.Pairwise Part.Apart)
    (hall : ∀ record start, parts.foldr (fun part built => part.put (part.get record) built) start = record) :
    Independent parts where
  unique part hpart other hother hsame := List.inj_on_of_nodup_map hkeys hother hpart hsame
  get_put := hput
  get_put_of_ne part hpart other hother hne :=
    (hapart.forall hpart hother fun hsame => hne (hsame ▸ rfl)).1
  ext record record' h := by
    rw [← hall record record, ← hall record' record]
    exact List.foldr_ext _ _ _ fun part hpart built => by rw [h part hpart]

theorem find?_setting_eq_none {key : String}
    (h : (parts.map Part.setting).find? (fun setting => setting.key == key) = none) :
    ∀ part ∈ parts, part.key ≠ key := by
  intro part hpart heq
  have hkey := List.find?_eq_none.mp h part.setting (List.mem_map_of_mem hpart)
  exact hkey (beq_iff_eq.mpr heq)

theorem find?_setting_eq_some {key : String} {setting : Setting α}
    (h : (parts.map Part.setting).find? (fun setting => setting.key == key) = some setting) :
    ∃ part ∈ parts, part.setting = setting ∧ part.key = key := by
  obtain ⟨part, hpart, rfl⟩ := List.mem_map.mp (List.mem_of_find?_eq_some h)
  have hkey : (part.setting.key == key) = true := by simpa using List.find?_some h
  exact ⟨part, hpart, rfl, beq_iff_eq.mp hkey⟩

/-- **A record part by part.** What is read from entries in which no key comes twice is the record in which
every part is what the value under its key denotes, or what it was before if there is none. -/
theorem readEntries_eq_ok_iff (hparts : Independent parts) {entries : List (String × Value)}
    (hkeys : (entries.map Prod.fst).Nodup) {before record : α} :
    readEntries (parts.map Part.setting) entries before = .ok record ↔
      ∀ part ∈ parts, Given part.Reads (part.get before) (entries.lookup part.key) (part.get record) := by
  induction entries generalizing before with
  | nil =>
    simp only [readEntries, Except.ok.injEq, List.lookup_nil, given_none_iff]
    constructor
    · intro h part _
      rw [h]
    · intro h
      exact hparts.ext _ _ fun part hpart => (h part hpart).symm
  | cons entry rest ih =>
    obtain ⟨key, value⟩ := entry
    obtain ⟨hnew, hleft⟩ := List.nodup_cons.mp hkeys
    have hrest : rest.lookup key = none := Toml.lookup_eq_none_iff_not_mem.mpr hnew
    have hother : ∀ part : Part α, part.key ≠ key →
        List.lookup part.key ((key, value) :: rest) = rest.lookup part.key := by
      intro part hne
      rw [List.lookup_cons, beq_false_of_ne hne]
    unfold readEntries
    split
    · next hfind =>
      rw [ih hleft]
      refine forall₂_congr fun part hpart => ?_
      rw [hother part (find?_setting_eq_none hfind part hpart)]
    · next setting hfind =>
      obtain ⟨part, hpart, rfl, rfl⟩ := find?_setting_eq_some hfind
      have hfound : List.lookup part.key ((part.key, value) :: rest) = some value := List.lookup_cons_self
      have hread : part.setting.read value before =
          (part.parse value).map fun content => part.put content before := rfl
      rw [hread]
      cases hparse : part.parse value with
      | error e =>
        constructor
        · intro h
          cases h
        · intro h
          have hgiven := h part hpart
          rw [hfound, given_some_iff, Part.Reads, hparse] at hgiven
          cases hgiven
      | ok content =>
        show readEntries (parts.map Part.setting) rest (part.put content before) = .ok record ↔ _
        rw [ih hleft]
        refine forall₂_congr fun other hother' => ?_
        by_cases hsame : other.key = part.key
        · obtain rfl := hparts.unique part hpart other hother' hsame
          rw [hfound, hrest, given_none_iff, given_some_iff, Part.Reads, hparse, hparts.get_put _ hpart,
            Except.ok.injEq, eq_comm]
        · rw [hother other hsame, hparts.get_put_of_ne part hpart other hother' hsame]

/-! ## Tables or nothing -/

/-- There is a table or nothing. -/
def Tabular (value? : Option Value) : Prop := ∀ value, value? = some value → ∃ entries, value = .table entries

instance (value? : Option Value) : Decidable (Tabular value?) :=
  match value? with
  | none => isTrue (by simp [Tabular])
  | some (.table entries) => isTrue (by simp [Tabular])
  | some (.string _) | some (.integer _) | some (.floating _) | some (.boolean _) | some .moment
  | some (.array _) | some (.tables _) => isFalse (by simp [Tabular])

theorem tabular_table (entries : List (String × Value)) : Tabular (some (.table entries)) := by
  rintro _ ⟨⟩
  exact ⟨entries, rfl⟩

/-- The entries of a table, of which nothing has none. -/
def entriesOf : Option Value → List (String × Value)
  | some (.table entries) => entries
  | _ => []

/-- A record that stands in a table or is left out is read from its entries. To leave it out is to leave
out all of its parts. -/
theorem given_readRecord_iff {name : String} {settings : List (Setting α)} {defaults record : α}
    {value? : Option Value} (h : Tabular value?) :
    Given (fun value record => readRecord name settings defaults value = .ok record) defaults value? record ↔
      readEntries settings (entriesOf value?) defaults = .ok record := by
  cases value? with
  | none =>
    rw [given_none_iff, eq_comm]
    exact iff_of_eq (Except.ok.injEq ..).symm
  | some value =>
    obtain ⟨entries, rfl⟩ := h value rfl
    exact given_some_iff

theorem nodup_entriesOf {value? : Option Value} (h : ∀ value, value? = some value → value.Distinct) :
    ((entriesOf value?).map Prod.fst).Nodup := by
  unfold entriesOf
  split
  · cases h _ rfl with
    | table hkeys hentries => exact hkeys
  · exact List.nodup_nil

/-- What is under a key in a table is one step further down. -/
theorem lookup_entriesOf {value : Value} {path : List String} (h : Tabular (value.at? path)) (key : String) :
    (entriesOf (value.at? path)).lookup key = value.at? (path ++ [key]) := by
  rw [Value.at?_append]
  cases hat : value.at? path with
  | none => rfl
  | some inner =>
    obtain ⟨entries, rfl⟩ := h inner hat
    show entries.lookup key = (entries.lookup key).bind fun inner => some inner
    cases List.lookup key entries <;> rfl

/-- Reading what is kept as it is read, or put in a record as something else. -/
theorem Setting.of_map (key : String) (parse : Value → Except ShapeError β) {γ : Type} (f : β → γ)
    (put : γ → α → α) :
    Setting.of key (fun value => (parse value).map f) put = Setting.of key parse fun b => put (f b) := by
  have hread : ∀ value record, ((parse value).map f).map (fun c => put c record) =
      (parse value).map fun b => put (f b) record := by
    intro value record
    cases parse value <;> rfl
  unfold Setting.of
  simp only [hread]

/-! ## What values denote -/

/-- A truth value denotes itself. -/
def DenotesBoolean (value : Value) (b : Bool) : Prop := value = .boolean b

/-- A number is denoted if it fits 32 bits without a sign. -/
def DenotesNumber (value : Value) (n : UInt32) : Prop := value = .integer n.toNat

/-- A text denotes itself. -/
def DenotesText (value : Value) (text : String) : Prop := value = .string text

/-- A text denotes a path that is there. -/
def DenotesPath (value : Value) (path? : Option String) : Prop := ∃ path, value = .string path ∧ path? = some path

/-- A log format is given by its name, or by a table with nothing under its name and no other key. -/
inductive DenotesFormat : Value → LogFormat → Prop
  | name (format : LogFormat) : DenotesFormat (.string format.name) format
  | key (format : LogFormat) {value : Value} (hvalue : value.IsEmpty) :
    DenotesFormat (.table [(format.name, value)]) format

theorem readBoolean_eq_ok_iff {value : Value} {b : Bool} :
    readBoolean value = .ok b ↔ DenotesBoolean value b := by
  cases value <;> simp [readBoolean, DenotesBoolean]

theorem readText_eq_ok_iff {value : Value} {text : String} :
    readText value = .ok text ↔ DenotesText value text := by
  cases value <;> simp [readText, DenotesText]

theorem readPath_eq_ok_iff {value : Value} {path? : Option String} :
    (readPath value).map some = .ok path? ↔ DenotesPath value path? := by
  cases value <;> simp [readPath, DenotesPath, Except.map, eq_comm]

theorem readWord_eq_ok_iff {value : Value} {n : UInt32} :
    readWord value = .ok n ↔ DenotesNumber value n := by
  unfold DenotesNumber
  cases value with
  | integer number =>
    have hn := n.toNat_lt
    simp only [readWord, Value.integer.injEq]
    split
    · next hrange =>
      obtain ⟨m, rfl⟩ := Int.eq_ofNat_of_zero_le hrange.1
      have hm : m < UInt32.size := Int.ofNat_lt.mp hrange.2
      rw [Except.ok.injEq, ← UInt32.toNat_inj, Int.toNat_natCast, UInt32.toNat_ofNat_of_lt' hm]
      omega
    · next hrange =>
      constructor
      · intro h
        cases h
      · intro h
        omega
  | _ => simp [readWord]

theorem readNothing_eq_ok_iff {value : Value} : readNothing value = .ok () ↔ value.IsEmpty := by
  unfold readNothing Value.IsEmpty Value.items?
  split <;> simp_all

theorem chosen_eq_ok_iff {name : String} {format : LogFormat} :
    chosen LogFormat.choices name = .ok format ↔ name = format.name := by
  constructor
  · intro h
    unfold chosen at h
    split at h
    · next choice hlookup =>
      cases h
      have hmem := Toml.mem_of_lookup hlookup
      simp only [LogFormat.choices, List.mem_cons, List.not_mem_nil, or_false, Prod.mk.injEq] at hmem
      rcases hmem with ⟨rfl, rfl⟩ | ⟨rfl, rfl⟩ <;> rfl
    · cases h
  · intro h
    subst h
    cases format <;> rfl

theorem readChoice_eq_ok_iff {value : Value} {format : LogFormat} :
    readChoice LogFormat.choices value = .ok format ↔ DenotesFormat value format := by
  constructor
  · intro h
    unfold readChoice at h
    split at h
    · next name =>
      obtain rfl := chosen_eq_ok_iff.mp h
      exact .name format
    · next name value =>
      cases hchosen : chosen LogFormat.choices name with
      | error e =>
        rw [hchosen] at h
        cases h
      | ok choice =>
        rw [hchosen] at h
        cases hnothing : readNothing value with
        | error e =>
          rw [hnothing] at h
          cases h
        | ok _ =>
          rw [hnothing] at h
          cases h
          obtain rfl := chosen_eq_ok_iff.mp hchosen
          exact .key _ (readNothing_eq_ok_iff.mp hnothing)
    · cases h
    · cases h
  · intro h
    cases h with
    | name => exact chosen_eq_ok_iff.mpr rfl
    | key _ hvalue =>
      show (do
        let choice ← chosen LogFormat.choices format.name
        readNothing _
        pure choice) = .ok format
      rw [chosen_eq_ok_iff.mpr rfl, readNothing_eq_ok_iff.mpr hvalue]
      rfl

end Shape

/-! ## The parts of a configuration -/

open Shape

/-- The parts of the engine's settings. -/
def EngineConfig.parts : List (Shape.Part EngineConfig) := [
  ⟨"pooling_allocator", Bool, readBoolean, poolingAllocator, fun b config => { config with poolingAllocator := b }⟩,
  ⟨"max_instances", UInt32, readWord, maxInstances, fun n config => { config with maxInstances := n }⟩,
  ⟨"instance_memory_mb", UInt32, readWord, instanceMemoryMb, fun n config => { config with instanceMemoryMb := n }⟩,
  ⟨"cache_compiled_modules", Bool, readBoolean, cacheCompiledModules,
    fun b config => { config with cacheCompiledModules := b }⟩,
  ⟨"cache_dir", Option String, fun value => (readPath value).map some, cacheDir,
    fun path config => { config with cacheDir := path }⟩]

/-- The parts of the decoder's settings. -/
def DecoderConfig.parts : List (Shape.Part DecoderConfig) := [
  ⟨"module_path", Option String, fun value => (readPath value).map some, modulePath,
    fun path config => { config with modulePath := path }⟩]

/-- The parts of the runtime's settings. -/
def RuntimeConfig.parts : List (Shape.Part RuntimeConfig) := [
  ⟨"engine", EngineConfig, readRecord "EngineConfig" EngineConfig.settings {}, engine,
    fun engine config => { config with engine }⟩,
  ⟨"decoder", DecoderConfig, readRecord "DecoderConfig" DecoderConfig.settings {}, decoder,
    fun decoder config => { config with decoder }⟩]

/-- The parts of the log's settings. -/
def LogConfig.parts : List (Shape.Part LogConfig) := [
  ⟨"filter", String, readText, filter, fun filter config => { config with filter }⟩,
  ⟨"format", LogFormat, readChoice LogFormat.choices, format, fun format config => { config with format }⟩]

/-- The parts of a configuration. -/
def Config.parts : List (Shape.Part Config) := [
  ⟨"runtime", RuntimeConfig, readRecord "RuntimeConfig" RuntimeConfig.settings {}, runtime,
    fun runtime config => { config with runtime }⟩,
  ⟨"log", LogConfig, readRecord "LogConfig" LogConfig.settings {}, log, fun log config => { config with log }⟩]

theorem EngineConfig.settings_eq : settings = parts.map Part.setting := by
  simp [settings, parts, Part.setting, Setting.of_map]

theorem DecoderConfig.settings_eq : settings = parts.map Part.setting := by
  simp [settings, parts, Part.setting, Setting.of_map]

theorem RuntimeConfig.settings_eq : settings = parts.map Part.setting := rfl

theorem LogConfig.settings_eq : settings = parts.map Part.setting := rfl

theorem Config.settings_eq : settings = parts.map Part.setting := rfl

theorem EngineConfig.independent : Independent parts :=
  .of_places (by decide) (by simp [parts]) (by simp [parts, Part.Apart]) fun _ _ => rfl

theorem DecoderConfig.independent : Independent parts :=
  .of_places (by decide) (by simp [parts]) (by simp [parts, Part.Apart]) fun _ _ => rfl

theorem RuntimeConfig.independent : Independent parts :=
  .of_places (by decide) (by simp [parts]) (by simp [parts, Part.Apart]) fun _ _ => rfl

theorem LogConfig.independent : Independent parts :=
  .of_places (by decide) (by simp [parts]) (by simp [parts, Part.Apart]) fun _ _ => rfl

theorem Config.independent : Independent parts :=
  .of_places (by decide) (by simp [parts]) (by simp [parts, Part.Apart]) fun _ _ => rfl

section Entries

variable {entries : List (String × Value)}

theorem EngineConfig.readEntries_eq_ok_iff (hkeys : (entries.map Prod.fst).Nodup) {config : EngineConfig} :
    readEntries settings entries {} = .ok config ↔
      Given DenotesBoolean false (entries.lookup "pooling_allocator") config.poolingAllocator ∧
      Given DenotesNumber 64 (entries.lookup "max_instances") config.maxInstances ∧
      Given DenotesNumber 64 (entries.lookup "instance_memory_mb") config.instanceMemoryMb ∧
      Given DenotesBoolean true (entries.lookup "cache_compiled_modules") config.cacheCompiledModules ∧
      Given DenotesPath none (entries.lookup "cache_dir") config.cacheDir := by
  rw [settings_eq, Shape.readEntries_eq_ok_iff independent hkeys]
  simp only [parts, List.forall_mem_cons, List.not_mem_nil, false_imp_iff, implies_true, and_true]
  refine and_congr (given_congr fun _ => readBoolean_eq_ok_iff) ?_
  refine and_congr (given_congr fun _ => readWord_eq_ok_iff) ?_
  refine and_congr (given_congr fun _ => readWord_eq_ok_iff) ?_
  refine and_congr (given_congr fun _ => readBoolean_eq_ok_iff) ?_
  exact given_congr fun _ => readPath_eq_ok_iff

theorem DecoderConfig.readEntries_eq_ok_iff (hkeys : (entries.map Prod.fst).Nodup) {config : DecoderConfig} :
    readEntries settings entries {} = .ok config ↔
      Given DenotesPath none (entries.lookup "module_path") config.modulePath := by
  rw [settings_eq, Shape.readEntries_eq_ok_iff independent hkeys]
  simp only [parts, List.forall_mem_cons, List.not_mem_nil, false_imp_iff, implies_true, and_true]
  exact given_congr fun _ => readPath_eq_ok_iff

theorem LogConfig.readEntries_eq_ok_iff (hkeys : (entries.map Prod.fst).Nodup) {config : LogConfig} :
    readEntries settings entries {} = .ok config ↔
      Given DenotesText "warn,capstone_wasm=info" (entries.lookup "filter") config.filter ∧
      Given DenotesFormat .text (entries.lookup "format") config.format := by
  rw [settings_eq, Shape.readEntries_eq_ok_iff independent hkeys]
  simp only [parts, List.forall_mem_cons, List.not_mem_nil, false_imp_iff, implies_true, and_true]
  exact and_congr (given_congr fun _ => readText_eq_ok_iff) (given_congr fun _ => readChoice_eq_ok_iff)

/-- The engine and the decoder are read from tables of their own. -/
theorem RuntimeConfig.readEntries_eq_ok_iff (hkeys : (entries.map Prod.fst).Nodup)
    (hengine : Tabular (entries.lookup "engine")) (hdecoder : Tabular (entries.lookup "decoder"))
    {config : RuntimeConfig} :
    readEntries settings entries {} = .ok config ↔
      readEntries EngineConfig.settings (entriesOf (entries.lookup "engine")) {} = .ok config.engine ∧
      readEntries DecoderConfig.settings (entriesOf (entries.lookup "decoder")) {} = .ok config.decoder := by
  rw [settings_eq, Shape.readEntries_eq_ok_iff independent hkeys]
  simp only [parts, List.forall_mem_cons, List.not_mem_nil, false_imp_iff, implies_true, and_true]
  exact and_congr (given_readRecord_iff hengine) (given_readRecord_iff hdecoder)

/-- The runtime and the log are read from tables of their own. -/
theorem Config.readEntries_eq_ok_iff (hkeys : (entries.map Prod.fst).Nodup)
    (hruntime : Tabular (entries.lookup "runtime")) (hlog : Tabular (entries.lookup "log")) {config : Config} :
    readEntries settings entries {} = .ok config ↔
      readEntries RuntimeConfig.settings (entriesOf (entries.lookup "runtime")) {} = .ok config.runtime ∧
      readEntries LogConfig.settings (entriesOf (entries.lookup "log")) {} = .ok config.log := by
  rw [settings_eq, Shape.readEntries_eq_ok_iff independent hkeys]
  simp only [parts, List.forall_mem_cons, List.not_mem_nil, false_imp_iff, implies_true, and_true]
  exact and_congr (given_readRecord_iff hruntime) (given_readRecord_iff hlog)

end Entries

end DecoderHost

import DecoderHost.Program
import DecoderHost.Proofs.Session.Bound
import DecoderHost.Proofs.Session.OpeningEnds

/-!
# A run is all or nothing

A run of the program goes through its stages in order: the configuration file, the log, the code, the module, the
opening, the decoding. Either all of them succeed, and the lines are printed; or the first one that fails is reported,
and nothing is printed. A stage that panics has an exit status of its own. The main statement is
`run_all_or_nothing`.

What each stage needs of the others is said by `Completes` and `Fails`, stage by stage. The log is a stage of its own:
a filter that cannot be read ends the run before its input is looked at. A panic while scratch memory is released,
with another one under way or not, is a panic of the decoding.
-/

namespace DecoderHost

namespace Program

variable {σ ω : Type}

/-! ## Stages -/

/-- What a run is given: a loader, the files, the log filter of the environment, the contents of standard input, and
what the command line asks for. -/
structure Setup (σ ω : Type) where
  loader : Loader σ ω
  files : ω
  logFilter : Option String
  input : List UInt8
  arguments : Arguments

/-- The stages of a run. -/
inductive Stage where
  | configuration | log | input | load | opening | decoding
  deriving DecidableEq

/-- How a stage fails: what is said about it, and whether it panics. -/
structure StageFailure where
  text : String
  isPanic : Bool

/-- A report tells of a failure: its status is that of a panic or of an error, nothing is printed, and the failure is
among what is said. -/
structure Report.Tells (report : Report) (failure : StageFailure) : Prop where
  status : report.status = if failure.isPanic then 101 else 1
  standardOutput : report.standardOutput = ""
  standardError : ∃ before after, report.standardError = before ++ failure.text ++ after

namespace Setup

variable (r : Setup σ ω)

/-- The stage of the configuration succeeds. -/
inductive Configured : Config → Prop
  | default (hpath : r.arguments.configPath = none) : Configured {}
  | ofFile {path : String} {config : Config} (hpath : r.arguments.configPath = some path)
    (h : Loader.readConfig (r.loader.contentsOf r.files) path = .ok config) : Configured config

/-- The stages up to the log succeed. -/
structure LogOpened (config : Config) : Prop where
  configured : r.Configured config
  isSome : (Log.ofConfig? r.logFilter config.log).isSome

/-- The stages up to the input succeed. -/
inductive CodeRead (config : Config) : List UInt8 → Prop
  | opcode {text : String} {code : List UInt8} (hlog : r.LogOpened config)
    (hsource : r.arguments.source = .opcode text) (h : Hex.opcode text = .ok code) : CodeRead config code
  | literals {code : List UInt8} (hlog : r.LogOpened config) (hsource : r.arguments.source = .standardInput)
    (h : Literal.decode r.input = .ok code) : CodeRead config code

/-- The stages up to the loading of the module succeed. -/
structure Loaded (config : Config) (code : List UInt8) (decoder : Decoder σ) : Prop where
  codeRead : r.CodeRead config code
  loads : (r.loader.ofConfig (runtimeSettings config r.arguments) r.files).1 = .ok decoder

/-- What comes of opening a disassembler for the target. -/
def opening (decoder : Decoder σ) : Except Failure (Disassembler σ) :=
  (Disassembler.open decoder r.arguments.target.arch r.arguments.target.mode
    (Pool.ofConfig decoder.engine.config)).1.outcome

/-- The stages up to the opening succeed. -/
structure Opened (code : List UInt8) (decoder : Decoder σ) (x : Disassembler σ) : Prop where
  loaded : ∃ config, r.Loaded config code decoder
  opens : r.opening decoder = .ok x

/-- What comes of decoding the code. -/
def decoding (decoder : Decoder σ) (code : List UInt8) (x : Disassembler σ) : Except Failure Disassembly :=
  (x.disassemble decoder stepBudget code).1.outcome

/-- **All stages succeed**, and the code is decoded to these lines. -/
inductive Completes : List String → Prop
  | intro {code : List UInt8} {decoder : Decoder σ} {x : Disassembler σ} {decoded : Disassembly}
    (hopened : r.Opened code decoder x) (h : decoding decoder code x = .ok decoded) :
    Completes (decoded.instructions.map Instruction.line)

/-- **A stage is the first that fails.** Those before it succeed. -/
inductive Fails : Stage → StageFailure → Prop
  | configuration {path : String} {e : ConfigError} (hpath : r.arguments.configPath = some path)
    (h : Loader.readConfig (r.loader.contentsOf r.files) path = .error e) :
    Fails .configuration ⟨errorText s!"Invalid configuration file {path}" (e.message :: e.causes), false⟩
  | log {config : Config} (hconfigured : r.Configured config) (h : Log.ofConfig? r.logFilter config.log = none) :
    Fails .log ⟨Malformed.torn.message ++ "\n", true⟩
  | opcode {config : Config} {text : String} {e : HexError} (hlog : r.LogOpened config)
    (hsource : r.arguments.source = .opcode text) (h : Hex.opcode text = .error e) :
    Fails .input ⟨s!"invalid hex opcode: {Hex.opcodeDigits text}\n" ++ usage, false⟩
  | literals {config : Config} {e : LiteralError} (hlog : r.LogOpened config)
    (hsource : r.arguments.source = .standardInput) (h : Literal.decode r.input = .error e) :
    Fails .input ⟨errorText e.message e.causes, false⟩
  | load {config : Config} {code : List UInt8} {e : HostError} (hread : r.CodeRead config code)
    (h : (r.loader.ofConfig (runtimeSettings config r.arguments) r.files).1 = .error e) :
    Fails .load ⟨errorText "Failed to load the decoder module" (e.message :: e.causes), false⟩
  | refusal {config : Config} {code : List UInt8} {decoder : Decoder σ} {e : OpenError}
    (hloaded : r.Loaded config code decoder) (h : r.opening decoder = .error (.refused e)) :
    Fails .opening ⟨errorText s!"Failed to open a {r.arguments.target.arch.name} disassembler"
      (e.message :: e.causes), false⟩
  | openingPanic {config : Config} {code : List UInt8} {decoder : Decoder σ} {p : Panic}
    (hloaded : r.Loaded config code decoder) (h : r.opening decoder = .error (.stopped (.panic p))) :
    Fails .opening ⟨p.message ++ "\n", true⟩
  | decodingPanic {code : List UInt8} {decoder : Decoder σ} {x : Disassembler σ} {p : Panic}
    (hopened : r.Opened code decoder x) (h : decoding decoder code x = .error (.stopped (.panic p))) :
    Fails .decoding ⟨p.message ++ "\n", true⟩

/-- The decoding comes to an end, if the run comes that far. -/
def Ends : Prop :=
  ∀ code decoder x, r.Opened code decoder x → decoding decoder code x ≠ .error (.stopped .stepsExhausted)

end Setup

end Program

namespace Disassembler

variable {σ : Type}

/-- An opening is refused or panics, unless it succeeds. -/
theorem open_outcome_ne (d : Decoder σ) (arch : Arch) (mode : Mode) (pool : Pool) :
    (Disassembler.open d arch mode pool).1.outcome ≠ .error (.stopped .stepsExhausted) := by
  have hends := Disassembler.open_ends d arch mode pool
  generalize Disassembler.open d arch mode pool = outcome at hends ⊢
  cases hends with
  | full | unready => simp [Reply.refuse, Reply.fail]
  | @stopped store _ stop scene _ _ hopen =>
    have hstop : stop ≠ .stepsExhausted := by
      rintro rfl
      exact Session.open_ne_stepsExhausted d.guest arch mode { store } (congrArg Prod.fst hopen)
    simpa using hstop
  | refused | opened => simp

/-- A decode in an open session comes to what the session comes to. -/
theorem outcome_disassemble (d : Decoder σ) (steps : Nat) (code : List UInt8) (arch : Arch) (mode : Mode)
    (store : Store σ) (handle : UInt32) :
    ((Disassembler.mk arch mode (some ⟨store, handle⟩)).disassemble d steps code).1.outcome =
      ((Session.disassemble d.guest handle steps code).run { store }).1.mapError .stopped := by
  rw [disassemble_opened]
  rfl

/-- A decode is never refused. -/
theorem disassemble_outcome_ne (d : Decoder σ) (steps : Nat) (code : List UInt8) (x : Disassembler σ)
    (e : OpenError) : (x.disassemble d steps code).1.outcome ≠ .error (.refused e) := by
  obtain ⟨arch, mode, _ | ⟨store, handle⟩⟩ := x
  · simp [disassemble, Reply.fail]
  · rw [outcome_disassemble]
    rcases ((Session.disassemble d.guest handle steps code).run { store }).1 with stop | decoded <;>
      intro h <;> cases h

end Disassembler

namespace Program

variable {σ ω : Type}

namespace Setup

variable {r : Setup σ ω} {config config' : Config} {code code' : List UInt8} {decoder decoder' : Decoder σ}
  {x x' : Disassembler σ}

/-! ## Every run completes or fails -/

theorem configured_or_fails (r : Setup σ ω) :
    (∃ config, r.Configured config) ∨ ∃ stage failure, r.Fails stage failure := by
  cases hpath : r.arguments.configPath with
  | none => exact .inl ⟨_, .default hpath⟩
  | some path =>
    cases hread : Loader.readConfig (r.loader.contentsOf r.files) path with
    | ok config => exact .inl ⟨config, .ofFile hpath hread⟩
    | error e => exact .inr ⟨_, _, .configuration hpath hread⟩

theorem codeRead_or_fails (hlog : r.LogOpened config) :
    (∃ code, r.CodeRead config code) ∨ ∃ stage failure, r.Fails stage failure := by
  cases hsource : r.arguments.source with
  | opcode text =>
    cases hcode : Hex.opcode text with
    | ok code => exact .inl ⟨code, .opcode hlog hsource hcode⟩
    | error e => exact .inr ⟨_, _, .opcode hlog hsource hcode⟩
  | standardInput =>
    cases hcode : Literal.decode r.input with
    | ok code => exact .inl ⟨code, .literals hlog hsource hcode⟩
    | error e => exact .inr ⟨_, _, .literals hlog hsource hcode⟩

theorem opened_or_fails (hloaded : r.Loaded config code decoder) :
    (∃ x, r.Opened code decoder x) ∨ ∃ stage failure, r.Fails stage failure := by
  cases hopen : r.opening decoder with
  | ok x => exact .inl ⟨x, ⟨config, hloaded⟩, hopen⟩
  | error failure =>
    rcases failure with e | p | _
    · exact .inr ⟨_, _, .refusal hloaded hopen⟩
    · exact .inr ⟨_, _, .openingPanic hloaded hopen⟩
    · -- Only a decode has a bound that it can use up.
      exact absurd hopen (Disassembler.open_outcome_ne _ _ _ _)

/-- **Either all stages succeed, or one is the first that fails.** -/
theorem completes_or_fails (hends : r.Ends) :
    (∃ lines, r.Completes lines) ∨ ∃ stage failure, r.Fails stage failure := by
  rcases r.configured_or_fails with ⟨config, hconfigured⟩ | hfails
  · cases hopen : Log.ofConfig? r.logFilter config.log with
    | none => exact .inr ⟨_, _, .log hconfigured hopen⟩
    | some log =>
      have hlog : r.LogOpened config := ⟨hconfigured, by rw [hopen]; rfl⟩
      rcases codeRead_or_fails hlog with ⟨code, hread⟩ | hfails
      · cases hload : (r.loader.ofConfig (runtimeSettings config r.arguments) r.files).1 with
        | error e => exact .inr ⟨_, _, .load hread hload⟩
        | ok decoder =>
          rcases opened_or_fails ⟨hread, hload⟩ with ⟨x, hopened⟩ | hfails
          · cases hdecode : decoding decoder code x with
            | ok decoded => exact .inl ⟨_, .intro hopened hdecode⟩
            | error failure =>
              rcases failure with e | p | _
              · exact absurd hdecode (Disassembler.disassemble_outcome_ne _ _ _ _ _)
              · exact .inr ⟨_, _, .decodingPanic hopened hdecode⟩
              · exact absurd hdecode (hends _ _ _ hopened)
          · exact .inr hfails
      · exact .inr hfails
  · exact .inr hfails

/-! ## What a run leaves behind -/

theorem Configured.eq (h : r.Configured config) :
    configure (r.loader.contentsOf r.files) r.arguments = .ok config := by
  cases h with
  | default hpath => simp [configure, hpath]
  | ofFile hpath h => simp [configure, hpath, h]

theorem CodeRead.eq (h : r.CodeRead config code) : readCode r.input r.arguments.source = .ok code := by
  cases h with
  | opcode _ hsource h | literals _ hsource h => simp [readCode, hsource, h]

theorem CodeRead.logOpened (h : r.CodeRead config code) : r.LogOpened config := by
  cases h <;> assumption

theorem Configured.unique (h : r.Configured config) (h' : r.Configured config') : config = config' :=
  Except.ok.inj (h.eq.symm.trans h'.eq)

theorem CodeRead.unique (h : r.CodeRead config code) (h' : r.CodeRead config' code') :
    config = config' ∧ code = code' :=
  ⟨h.logOpened.configured.unique h'.logOpened.configured, Except.ok.inj (h.eq.symm.trans h'.eq)⟩

theorem Loaded.unique (h : r.Loaded config code decoder) (h' : r.Loaded config' code' decoder') :
    code = code' ∧ decoder = decoder' := by
  obtain ⟨rfl, rfl⟩ := h.codeRead.unique h'.codeRead
  exact ⟨rfl, Except.ok.inj (h.loads.symm.trans h'.loads)⟩

/-- The stages up to the opening can succeed in one way only. -/
theorem Opened.unique (h : r.Opened code decoder x) (h' : r.Opened code' decoder' x') :
    code = code' ∧ decoder = decoder' ∧ x = x' := by
  obtain ⟨⟨config, hloaded⟩, hopens⟩ := h
  obtain ⟨⟨config', hloaded'⟩, hopens'⟩ := h'
  obtain ⟨rfl, rfl⟩ := hloaded.unique hloaded'
  exact ⟨rfl, rfl, Except.ok.inj (hopens.symm.trans hopens')⟩

/-- A run that completes has no stage that fails. -/
theorem Completes.not_fails {lines : List String} (hcompletes : r.Completes lines) (stage : Stage)
    (failure : StageFailure) : ¬ r.Fails stage failure := by
  obtain ⟨hopened, hdecode⟩ := hcompletes
  obtain ⟨config, hloaded⟩ := hopened.loaded
  have hread := hloaded.codeRead
  have hlog := hread.logOpened
  intro hfails
  cases hfails with
  | configuration hpath h =>
    have hconfigure := hlog.configured.eq
    simp [configure, hpath, h] at hconfigure
  | log hconfigured h =>
    obtain rfl := hlog.configured.unique hconfigured
    simpa [h] using hlog.isSome
  | opcode _ hsource h | literals _ hsource h =>
    have hcode := hread.eq
    simp [readCode, hsource, h] at hcode
  | load hread' h =>
    obtain ⟨rfl, rfl⟩ := hread.unique hread'
    exact nomatch hloaded.loads.symm.trans h
  | refusal hloaded' h | openingPanic hloaded' h =>
    obtain ⟨rfl, rfl⟩ := hloaded.unique hloaded'
    exact nomatch hopened.opens.symm.trans h
  | decodingPanic hopened' h =>
    obtain ⟨rfl, rfl, rfl⟩ := hopened.unique hopened'
    exact nomatch hdecode.symm.trans h

variable {words : List String}

/-- A run whose log is open is told by what the other stages produce. -/
theorem run_of_logOpened (hparse : CommandLine.parse words r.loader.environment.modulePath = .ok r.arguments)
    (hlog : r.LogOpened config) :
    ∃ log, run r.loader r.files r.logFilter r.input words =
      loggedReport log r.arguments.source (produce r.loader r.files r.input config r.arguments) := by
  obtain ⟨log, hopen⟩ := Option.isSome_iff_exists.mp hlog.isSome
  exact ⟨log, by simp only [run, hparse, hlog.configured.eq, hopen]⟩

theorem decode_eq (r : Setup σ ω) (decoder : Decoder σ) (code : List UInt8) :
    decode decoder r.arguments.target code = match r.opening decoder with
      | .error failure => .error (breakdown r.arguments.target.arch failure)
      | .ok x =>
        match decoding decoder code x with
        | .error failure => .error (breakdown r.arguments.target.arch failure)
        | .ok decoded => .ok decoded.lines := rfl

theorem produce_of_readCode_error {b : Breakdown} (h : readCode r.input r.arguments.source = .error b) :
    produce r.loader r.files r.input config r.arguments = .error b := by
  simp only [produce, h, bind, Except.bind]

theorem produce_of_codeRead (h : r.CodeRead config code) :
    produce r.loader r.files r.input config r.arguments =
      match load r.loader r.files config r.arguments with
      | .error b => .error b
      | .ok decoder => (decode decoder r.arguments.target code).map fun lines => ⟨code, lines⟩ := by
  simp only [produce, h.eq, bind, Except.bind]
  cases load r.loader r.files config r.arguments with
  | error b => rfl
  | ok decoder =>
    dsimp only
    cases decode decoder r.arguments.target code <;> rfl

theorem produce_of_loaded (h : r.Loaded config code decoder) :
    produce r.loader r.files r.input config r.arguments =
      (decode decoder r.arguments.target code).map fun lines => ⟨code, lines⟩ := by
  rw [produce_of_codeRead h.codeRead, load, h.loads]

/-- A run that completes prints its lines. -/
theorem run_of_completes (hparse : CommandLine.parse words r.loader.environment.modulePath = .ok r.arguments)
    {lines : List String} (h : r.Completes lines) :
    (run r.loader r.files r.logFilter r.input words).standardOutput = String.join (lines.map (· ++ "\n")) ∧
    (run r.loader r.files r.logFilter r.input words).status =
      if r.arguments.source = .standardInput ∧ lines = [] then 1 else 0 := by
  obtain ⟨⟨⟨config, hloaded⟩, hopens⟩, hdecode⟩ := h
  obtain ⟨log, hrun⟩ := run_of_logOpened hparse hloaded.codeRead.logOpened
  rw [hrun, produce_of_loaded hloaded, decode_eq, hopens]
  simp only [hdecode, Except.map, loggedReport, listingReport, Disassembly.lines]
  split <;> exact ⟨rfl, rfl⟩

theorem tells_loggedReport {log : Log} {source : CodeSource} {b : Breakdown} {failure : StageFailure}
    {before : String} (htext : breakdownText log b = before ++ failure.text)
    (hstatus : breakdownStatus b = if failure.isPanic then 101 else 1) :
    (loggedReport log source (.error b)).Tells failure where
  status := hstatus
  standardOutput := rfl
  standardError := by
    refine ⟨log.preamble ++ before, "", ?_⟩
    show log.preamble ++ breakdownText log b = _
    rw [htext, String.append_empty, String.append_assoc]

/-- A run in which a stage fails tells of the first one, and prints nothing. -/
theorem run_of_fails (hparse : CommandLine.parse words r.loader.environment.modulePath = .ok r.arguments)
    {stage : Stage} {failure : StageFailure} (h : r.Fails stage failure) :
    (run r.loader r.files r.logFilter r.input words).Tells failure := by
  cases h with
  | @configuration path e hpath h =>
    -- The log is not open yet, so this failure and the next one are not reported through it.
    have hconfigure : configure (r.loader.contentsOf r.files) r.arguments = .error (.configuration path e) := by
      simp only [configure, hpath, h]
    simp only [run, hparse, hconfigure]
    exact ⟨rfl, rfl, "", "", by simp [breakdownReport, breakdownText]⟩
  | log hconfigured h =>
    simp only [run, hparse, hconfigured.eq, h]
    exact ⟨rfl, rfl, "", "", by simp [tornFilterReport]⟩
  | @opcode config text e hlog hsource h =>
    obtain ⟨log, hrun⟩ := run_of_logOpened hparse hlog
    have hread : readCode r.input r.arguments.source = .error (.opcode text e) := by
      simp only [readCode, hsource, h]
    rw [hrun, produce_of_readCode_error hread]
    exact tells_loggedReport (String.append_assoc ..) rfl
  | @literals config e hlog hsource h =>
    obtain ⟨log, hrun⟩ := run_of_logOpened hparse hlog
    have hread : readCode r.input r.arguments.source = .error (.literals e) := by
      simp only [readCode, hsource, h]
    rw [hrun, produce_of_readCode_error hread]
    exact tells_loggedReport (String.empty_append ..).symm rfl
  | load hread h =>
    obtain ⟨log, hrun⟩ := run_of_logOpened hparse hread.logOpened
    rw [hrun, produce_of_codeRead hread, load, h]
    exact tells_loggedReport (String.empty_append ..).symm rfl
  | refusal hloaded h =>
    obtain ⟨log, hrun⟩ := run_of_logOpened hparse hloaded.codeRead.logOpened
    rw [hrun, produce_of_loaded hloaded, decode_eq, h]
    exact tells_loggedReport (String.empty_append ..).symm rfl
  | openingPanic hloaded h =>
    obtain ⟨log, hrun⟩ := run_of_logOpened hparse hloaded.codeRead.logOpened
    rw [hrun, produce_of_loaded hloaded, decode_eq, h]
    exact tells_loggedReport (String.empty_append ..).symm rfl
  | decodingPanic hopened h =>
    obtain ⟨⟨config, hloaded⟩, hopens⟩ := hopened
    obtain ⟨log, hrun⟩ := run_of_logOpened hparse hloaded.codeRead.logOpened
    rw [hrun, produce_of_loaded hloaded, decode_eq, hopens]
    dsimp only
    rw [h]
    exact tells_loggedReport (String.empty_append ..).symm rfl

/-! ## What the status says -/

section

variable (hparse : CommandLine.parse words r.loader.environment.modulePath = .ok r.arguments) (hends : r.Ends)

include hparse hends

theorem status_eq_zero_iff :
    (run r.loader r.files r.logFilter r.input words).status = 0 ↔
      ∃ lines, r.Completes lines ∧ (r.arguments.source = .standardInput → lines ≠ []) := by
  constructor
  · intro hzero
    rcases r.completes_or_fails hends with ⟨lines, h⟩ | ⟨stage, failure, h⟩
    · refine ⟨lines, h, fun hsource hempty => ?_⟩
      rw [(run_of_completes hparse h).2, if_pos ⟨hsource, hempty⟩] at hzero
      simp at hzero
    · rw [(run_of_fails hparse h).status] at hzero
      split at hzero <;> simp at hzero
  · rintro ⟨lines, h, hsome⟩
    rw [(run_of_completes hparse h).2, if_neg fun hnone => hsome hnone.1 hnone.2]

theorem status_eq_panic_iff :
    (run r.loader r.files r.logFilter r.input words).status = 101 ↔
      ∃ stage failure, r.Fails stage failure ∧ failure.isPanic := by
  constructor
  · intro hpanic
    rcases r.completes_or_fails hends with ⟨lines, h⟩ | ⟨stage, failure, h⟩
    · rw [(run_of_completes hparse h).2] at hpanic
      split at hpanic <;> simp at hpanic
    · refine ⟨stage, failure, h, ?_⟩
      by_contra herror
      rw [(run_of_fails hparse h).status, if_neg herror] at hpanic
      simp at hpanic
  · rintro ⟨stage, failure, h, hpanic⟩
    rw [(run_of_fails hparse h).status, if_pos hpanic]

theorem status_eq_or :
    (run r.loader r.files r.logFilter r.input words).status = 0 ∨
    (run r.loader r.files r.logFilter r.input words).status = 1 ∨
    (run r.loader r.files r.logFilter r.input words).status = 101 := by
  rcases r.completes_or_fails hends with ⟨lines, h⟩ | ⟨stage, failure, h⟩
  · rw [(run_of_completes hparse h).2]
    split <;> simp
  · rw [(run_of_fails hparse h).status]
    split <;> simp

theorem standardOutput_of_status_ne (hnonzero : (run r.loader r.files r.logFilter r.input words).status ≠ 0) :
    (run r.loader r.files r.logFilter r.input words).standardOutput = "" := by
  rcases r.completes_or_fails hends with ⟨lines, h⟩ | ⟨stage, failure, h⟩
  · obtain ⟨hprinted, hstatus⟩ := run_of_completes hparse h
    by_cases hnone : r.arguments.source = .standardInput ∧ lines = []
    · rw [hprinted, hnone.2]
      rfl
    · rw [hstatus, if_neg hnone] at hnonzero
      exact absurd rfl hnonzero
  · exact (run_of_fails hparse h).standardOutput

end

end Setup

/-- **A run is all or nothing.** If its decoding comes to an end, either all stages succeed or one is the first that
fails, and not both. In the one case the lines are printed, each with a line feed, and nothing else is; in the other
nothing is printed, and that failure is what is said. The exit status is 0 exactly if all stages succeed and, for
standard input, there are lines; it is 101 exactly if a stage panics, and 1 otherwise. -/
theorem run_all_or_nothing (r : Setup σ ω) (words : List String)
    (hparse : CommandLine.parse words r.loader.environment.modulePath = .ok r.arguments) (hends : r.Ends) :
    let report := run r.loader r.files r.logFilter r.input words
    ((∃ lines, r.Completes lines) ∨ ∃ stage failure, r.Fails stage failure) ∧
    (∀ lines, r.Completes lines → ∀ stage failure, ¬ r.Fails stage failure) ∧
    (∀ lines, r.Completes lines → report.standardOutput = String.join (lines.map (· ++ "\n"))) ∧
    (∀ stage failure, r.Fails stage failure → report.Tells failure) ∧
    (report.status = 0 ↔ ∃ lines, r.Completes lines ∧ (r.arguments.source = .standardInput → lines ≠ [])) ∧
    (report.status = 101 ↔ ∃ stage failure, r.Fails stage failure ∧ failure.isPanic) ∧
    (report.status = 0 ∨ report.status = 1 ∨ report.status = 101) ∧
    (report.status ≠ 0 → report.standardOutput = "") := by
  intro report
  exact ⟨r.completes_or_fails hends, fun _ h => h.not_fails, fun _ h => (Setup.run_of_completes hparse h).1,
    fun _ _ h => Setup.run_of_fails hparse h, Setup.status_eq_zero_iff hparse hends,
    Setup.status_eq_panic_iff hparse hends, Setup.status_eq_or hparse hends,
    Setup.standardOutput_of_status_ne hparse hends⟩

/-- A store with one text in its memory; the number tells whether an instruction was decoded. -/
def singleStore : Store Nat := ⟨Memory.tiny.patch 40 [110, 111, 112], 0, 0, {}⟩

/-- A guest that decodes one instruction of one byte. -/
def single : Guest Nat where
  exports := [("memory", .memory), ("free", .function ⟨[.i32], []⟩), ("cs_free", .function ⟨[.i32, .i32], []⟩),
    ("malloc", .function ⟨[.i32], [.i32]⟩), ("cs_malloc", .function ⟨[.i32], [.i32]⟩),
    ("cs_open", .function ⟨[.i32, .i32, .i32], [.i32]⟩), ("cs_option", .function ⟨[.i32, .i32, .i32], [.i32]⟩),
    ("cs_disasm_iter", .function ⟨[.i32, .i32, .i32, .i32, .i32], [.i32]⟩),
    ("cs_get_mnemonic", .function ⟨[.i32], [.i32]⟩), ("cs_get_op_str", .function ⟨[.i32], [.i32]⟩)]
  initialPages := 0
  start _ surroundings := .ok (singleStore.within surroundings)
  invoke name arguments := fun s =>
    match name, arguments with
    | "cs_malloc", _ => (.ok [.i32 8], s)
    | "malloc", [.i32 16] => (.ok [.i32 16], s)
    | "malloc", _ => (.ok [.i32 32], s)
    | "cs_disasm_iter", _ =>
      match s.globals with
      | 0 => (.ok [.i32 1], { s with memory := s.memory.patch 20 [0, 0, 0, 0, 1], globals := 1 })
      | _ => (.ok [.i32 0], s)
    | "cs_get_mnemonic", _ => (.ok [.i32 40], s)
    | "cs_get_op_str", _ => (.ok [.i32 43], s)
    | "cs_open", _ | "cs_option", _ => (.ok [.i32 0], s)
    | _, _ => (.ok [], s)

/-- A loader for which every file holds that guest. -/
def singleLoader : Loader Nat Unit where
  environment := {}
  cache := CacheSteps.unavailable
  contentsOf _ _ := .ok (Module.magic ++ [1, 0, 0, 0])
  compiler _ _ := .ok single

/-- A run that is to decode one opcode. -/
def singleSetup (logFilter opcode : String) : Setup Nat Unit :=
  ⟨singleLoader, (), some logFilter, [], ⟨.amd64, .opcode opcode, some "m", none⟩⟩

/-- What is loaded for it. -/
def singleDecoder : Decoder Nat :=
  ⟨⟨{}, none⟩, ⟨SipHash.contentHash (Module.magic ++ [1, 0, 0, 0]), single⟩⟩

/-- What is opened for it. -/
def singleDisassembler : Disassembler Nat := ⟨.x86, .mode64, some ⟨singleStore, 0⟩⟩

theorem ofConfig?_empty (config : LogConfig) :
    Log.ofConfig? (some "") config = some ⟨⟨[], []⟩, config.format⟩ := by
  have hparts : LogFilter.parts "" = [] := by
    simp only [LogFilter.parts, String.splitOn]
    rw [String.splitOnAux]
    rfl
  have hstrict : LogFilter.strict "" = .ok [] := by
    rw [LogFilter.strict, hparts]
    rfl
  simp [Log.ofConfig?, LogFilter.inForce?, hstrict]

theorem single_opened : (singleSetup "" "90").Opened [0x90] singleDecoder singleDisassembler where
  loaded := ⟨{}, .opcode ⟨.default rfl, Option.isSome_of_eq_some (ofConfig?_empty {})⟩ rfl rfl, rfl⟩
  opens := by with_unfolding_all rfl

theorem single_decoding :
    Setup.decoding singleDecoder [0x90] singleDisassembler = .ok ⟨[⟨0, "nop", ""⟩], 0⟩ := by
  have htwo : ((Session.disassemble single 0 2 [0x90]).run { store := singleStore }).1 =
      .ok ⟨[⟨0, "nop", ""⟩], 0⟩ := by with_unfolding_all rfl
  have hrun : (Session.disassemble single 0 stepBudget [0x90]).run { store := singleStore } = _ :=
    Session.run_disassemble_of_le (Prod.ext htwo rfl) (by simp) (show 2 ≤ stepBudget by decide)
  rw [Setup.decoding, singleDisassembler, Disassembler.outcome_disassemble,
    show singleDecoder.guest = single from rfl, hrun]
  rfl

/-- One opcode is decoded, and its line is printed. -/
theorem single_all_or_nothing :
    let report := run singleLoader () (some "") [] ["--arch", "amd64", "--module", "m", "90"]
    report.status = 0 ∧ report.standardOutput = "nop\n" := by
  have hends : (singleSetup "" "90").Ends := by
    rintro code decoder x hopened
    obtain ⟨rfl, rfl, rfl⟩ := hopened.unique single_opened
    simp [single_decoding]
  obtain ⟨-, -, hlines, -, hzero, -⟩ :=
    run_all_or_nothing (singleSetup "" "90") ["--arch", "amd64", "--module", "m", "90"] rfl hends
  have hcompletes : (singleSetup "" "90").Completes ["nop"] := .intro single_opened single_decoding
  exact ⟨hzero.mpr ⟨_, hcompletes, by simp⟩, hlines _ hcompletes⟩

theorem ofConfig?_torn : Log.ofConfig? (some "\u3000[]x") {} = none := by
  have hparts : LogFilter.parts "\u3000[]x" = ["\u3000[]x"] := by
    simp only [LogFilter.parts, String.splitOn]
    rw [String.splitOnAux, String.splitOnAux, String.splitOnAux, String.splitOnAux, String.splitOnAux]
    with_unfolding_all rfl
  have htorn : Directive.read "\u3000[]x" = .error .torn := by with_unfolding_all rfl
  have hstrict : LogFilter.strict "\u3000[]x" = .error .torn := by
    rw [LogFilter.strict, hparts, List.mapM_cons, htorn]
    rfl
  simp [Log.ofConfig?, LogFilter.inForce?, hstrict]

/-- A filter that cannot be read goes before an opcode that cannot be read: the run panics and does not say what is
wrong with the opcode. -/
theorem torn_filter_hides_opcode :
    CommandLine.parse ["--arch", "amd64", "--module", "m", "zz"] none =
      .ok (singleSetup "\u3000[]x" "zz").arguments ∧
    (singleSetup "\u3000[]x" "zz").Configured {} ∧ Hex.opcode "zz" = .error (.invalidCharacter 122 0) ∧
    run singleLoader () (some "\u3000[]x") [] ["--arch", "amd64", "--module", "m", "zz"] =
      { status := 101, standardOutput := "", standardError := Malformed.torn.message ++ "\n" } := by
  refine ⟨rfl, .default rfl, rfl, ?_⟩
  have hparse : CommandLine.parse ["--arch", "amd64", "--module", "m", "zz"] singleLoader.environment.modulePath =
      .ok (singleSetup "\u3000[]x" "zz").arguments := rfl
  have hconfigure : configure (singleLoader.contentsOf ()) (singleSetup "\u3000[]x" "zz").arguments = .ok {} := rfl
  simp only [run, hparse, hconfigure, ofConfig?_torn]
  rfl

end Program

end DecoderHost

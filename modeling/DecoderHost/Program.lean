import DecoderHost.CommandLine
import DecoderHost.Disassembler
import DecoderHost.Literal
import DecoderHost.Log.Filter

/-!
The program `decodeasm`: decode one opcode, or the byte slices on standard input, and print one line for
each instruction.

A run goes through stages: the configuration file, the log filter, the code, the module, the opening, the
decoding. The first stage that fails ends the run, and nothing is printed on standard output unless all
succeed. Standard input from which nothing is decoded is a failure too.
-/

namespace DecoderHost.Program

variable {σ ω : Type}

/-- Why a run ended in one of its stages. -/
inductive Breakdown where
  | configuration (path : String) (error : ConfigError)
  | opcode (text : String) (error : HexError)
  | literals (error : LiteralError)
  | notLoaded (error : HostError)
  | notOpened (arch : Arch) (error : OpenError)
  | stopped (stop : Stop)
  deriving DecidableEq, Repr

/-- The code and the lines that were decoded from it. -/
structure Listing where
  code : List UInt8
  lines : List String
  deriving DecidableEq, Repr

/-! ## Stages -/

/-- The configuration: that of the file, if one is named. -/
def configure (contentsOf : FileReader) (arguments : Arguments) : Except Breakdown Config :=
  match arguments.configPath with
  | none => .ok {}
  | some path =>
    match Loader.readConfig contentsOf path with
    | .ok config => .ok config
    | .error e => .error (.configuration path e)

/-- The code to decode. -/
def readCode (input : List UInt8) : CodeSource → Except Breakdown (List UInt8)
  | .opcode text =>
    match Hex.opcode text with
    | .ok code => .ok code
    | .error e => .error (.opcode text e)
  | .standardInput =>
    match Literal.decode input with
    | .ok code => .ok code
    | .error e => .error (.literals e)

/-- The settings for the module, of which the path on the command line wins over the configured one. -/
def runtimeSettings (config : Config) (arguments : Arguments) : RuntimeConfig :=
  match arguments.modulePath with
  | none => config.runtime
  | some path => { config.runtime with decoder.modulePath := some path }

/-- The path of the module that a run loads, if it comes that far. -/
def modulePath? (environment : Environment) (contentsOf : FileReader) (arguments : Arguments) :
    Option String :=
  match configure contentsOf arguments with
  | .ok config => (runtimeSettings config arguments).decoder.modulePathOr environment
  | .error _ => none

/-- Load the decoder. -/
def load (loader : Loader σ ω) (files : ω) (config : Config) (arguments : Arguments) :
    Except Breakdown (Decoder σ) :=
  match (loader.ofConfig (runtimeSettings config arguments) files).1 with
  | .ok decoder => .ok decoder
  | .error e => .error (.notLoaded e)

/-- The breakdown for a request that was not answered. -/
def breakdown (arch : Arch) : Failure → Breakdown
  | .refused e => .notOpened arch e
  | .stopped stop => .stopped stop

/-- The number of rounds a guest is given to decode one byte string. -/
def stepBudget : Nat := Nat.pow 2 40

/-- Open a disassembler for the target and decode the code. There is one instance, and what its guest finds around it is
left to how the guest is set up. -/
def decode (decoder : Decoder σ) (target : Target) (code : List UInt8) :
    Except Breakdown (List String) :=
  let (opened, _) :=
    Disassembler.open decoder target.arch target.mode (Pool.ofConfig decoder.engine.config)
  match opened.outcome with
  | .error failure => .error (breakdown target.arch failure)
  | .ok disassembler =>
    match (disassembler.disassemble decoder stepBudget code).1.outcome with
    | .error failure => .error (breakdown target.arch failure)
    | .ok decoded => .ok decoded.lines

/-- All stages behind the configuration. -/
def produce (loader : Loader σ ω) (files : ω) (input : List UInt8) (config : Config)
    (arguments : Arguments) : Except Breakdown Listing := do
  let code ← readCode input arguments.source
  let decoder ← load loader files config arguments
  let lines ← decode decoder arguments.target code
  return { code, lines }

/-! ## Reports -/

/-- What a run leaves behind. -/
structure Report where
  status : Nat
  standardOutput : String := ""
  standardError : String := ""
  deriving DecidableEq, Repr

/-- The name that log records carry. -/
def logTarget : String := "decodeasm"

/-- Where and in which form records are shown. -/
structure Log where
  filter : LogFilter
  format : LogFormat

/-- The line of a record, if it is shown. -/
def Log.write (log : Log) (record : LogRecord) : String :=
  if log.filter.shows record then record.line log.format ++ "\n" else ""

/-- The log that a configuration asks for; the filter of the environment wins. -/
def Log.ofConfig? (fromEnvironment : Option String) (config : LogConfig) : Option Log :=
  (LogFilter.inForce? fromEnvironment config.filter).map fun filter => ⟨filter, config.format⟩

/-- The record of a rejected opcode. -/
def rejectedOpcode (e : HexError) : LogRecord :=
  ⟨.debug, logTarget, "Rejected opcode", [("error", .text e.message)]⟩

/-- The record of code from which nothing was decoded. -/
def nothingDecoded (length : Nat) : LogRecord :=
  ⟨.warn, logTarget, "No instructions decoded", [("bytes", .number length)]⟩

/-- How the program is used. -/
def usage : String :=
  "Usage: decodeasm --arch <ARCH> <HEX OPCODE>\n       decodeasm --arch <ARCH> --stdin\n"

/-- The version of the program. -/
def versionLine : String := "decodeasm 0.1.0\n"

/-- The answer to the wish for help. -/
def helpText : String :=
  "Decode machine code into assembly\n\n" ++ usage ++
    "\nArguments:\n" ++
    "  [HEX OPCODE]  Opcode bytes as a hex string, with an optional 0x prefix\n" ++
    "\nOptions:\n" ++
    "      --arch <ARCH>    Architecture to decode [possible values: arm64, amd64]\n" ++
    "      --stdin          Read Go `[]byte\x7b...\x7d` literals from standard input and decode them as one buffer\n" ++
    "      --module <PATH>  Path to the Capstone WebAssembly module [env: CAPSTONE_WASM=]\n" ++
    "      --config <PATH>  TOML configuration file\n" ++
    "  -h, --help           Print help\n" ++
    "  -V, --version        Print version\n"

/-- What is wrong with a command line. -/
def complaint : UsageError → String
  | .missingArgument => "a required argument was not provided"
  | .invalidValue => "a value is missing or not valid"
  | .conflict => "an argument was given twice or together with one that excludes it"
  | .unknownArgument => "unexpected argument"
  | .tooManyValues => "a value was given to a flag"
  | .help | .version => ""

/-- The report on a command line that asks for no decoding. -/
def usageReport (e : UsageError) : Report :=
  match e with
  | .help => { status := e.exitStatus, standardOutput := helpText }
  | .version => { status := e.exitStatus, standardOutput := versionLine }
  | _ => {
    status := e.exitStatus
    standardError := s!"error: {complaint e}\n\n{usage}\nFor more information, try '--help'.\n" }

/-- A text whose first line stands behind `first`, and every other behind `others`. -/
def indented (first others text : String) : String :=
  first ++ ("\n" ++ others).intercalate (text.splitOn "\n") ++ "\n"

/-- A cause in a numbered list. -/
def numberedCause (cause : String × Nat) : String :=
  indented (String.ofList (List.replicate (5 - (toString cause.2).length) ' ') ++ s!"{cause.2}: ")
    "       " cause.1

/-- An error with its causes, outermost first; more than one are numbered. -/
def errorText (message : String) (causes : List String) : String :=
  s!"Error: {message}\n" ++
    match causes with
    | [] => ""
    | [cause] => "\nCaused by:\n" ++ indented "    " "    " cause
    | causes => "\nCaused by:\n" ++ String.join (causes.zipIdx.map numberedCause)

/-- The wording of a breakdown. -/
def breakdownText (log : Log) : Breakdown → String
  | .configuration path e =>
    errorText s!"Invalid configuration file {path}" (e.message :: e.causes)
  | .opcode text e =>
    log.write (rejectedOpcode e) ++ s!"invalid hex opcode: {Hex.opcodeDigits text}\n" ++ usage
  | .literals e => errorText e.message e.causes
  | .notLoaded e => errorText "Failed to load the decoder module" (e.message :: e.causes)
  | .notOpened arch e =>
    errorText s!"Failed to open a {arch.name} disassembler" (e.message :: e.causes)
  | .stopped (.panic p) => p.message ++ "\n"
  | .stopped .stepsExhausted => "the decoder did not come to an end\n"

/-- The exit status of a breakdown: a panic has one of its own. -/
def breakdownStatus : Breakdown → Nat
  | .stopped _ => 101
  | _ => 1

/-- The report on a breakdown. -/
def breakdownReport (log : Log) (b : Breakdown) : Report :=
  { status := breakdownStatus b, standardError := breakdownText log b }

/-- The report on decoded lines. -/
def listingReport (log : Log) (source : CodeSource) (listing : Listing) : Report :=
  let printed := String.join (listing.lines.map (· ++ "\n"))
  if source = .standardInput ∧ listing.lines = [] then
    { status := 1
      standardOutput := printed
      standardError := log.write (nothingDecoded listing.code.length) }
  else { status := 0, standardOutput := printed }

/-- What is said when a log is opened, line by line. -/
def Log.preamble (log : Log) : String := String.join (log.filter.notices.map (· ++ "\n"))

/-- The report on the stages behind the configuration, once the log is open. -/
def loggedReport (log : Log) (source : CodeSource) (listing : Except Breakdown Listing) : Report :=
  let report := match listing with
    | .error b => breakdownReport log b
    | .ok listing => listingReport log source listing
  { report with standardError := log.preamble ++ report.standardError }

/-- The report on a log filter that cannot be read. -/
def tornFilterReport : Report :=
  { status := 101, standardError := Malformed.torn.message ++ "\n" }

/-- A run on a command line, with the files, the log filter of the environment and the contents of standard
input. -/
def run (loader : Loader σ ω) (files : ω) (logFilter : Option String) (input : List UInt8)
    (words : List String) : Report :=
  match CommandLine.parse words loader.environment.modulePath with
  | .error e => usageReport e
  | .ok arguments =>
    match configure (loader.contentsOf files) arguments with
    | .error b => breakdownReport ⟨⟨[], []⟩, .text⟩ b
    | .ok config =>
      match Log.ofConfig? logFilter config.log with
      | none => tornFilterReport
      | some log => loggedReport log arguments.source (produce loader files input config arguments)

end DecoderHost.Program

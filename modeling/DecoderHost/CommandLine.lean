import DecoderHost.Arch
import DecoderHost.Mode

/-!
The command line: a target, an opcode or the wish to read standard input, and optionally a module and a
configuration file.

Words are read from left to right. An option takes its value from its own word behind an equals sign, or
from the next word unless that starts with a dash. Such a value is looked at when the next word is found
to belong to something else, so that a word which belongs to nothing is reported before it. Help and
version answer at once, and what is missing is reported last.
-/

namespace DecoderHost

/-- What code is decoded for, as the command line calls it. -/
inductive Target where
  | arm64 | amd64
  deriving DecidableEq, Repr

namespace Target

/-- The name of a target. -/
def name : Target → String
  | arm64 => "arm64"
  | amd64 => "amd64"

/-- The architecture of a target. -/
def arch : Target → Arch
  | arm64 => .aarch64
  | amd64 => .x86

/-- The mode of a target. -/
def mode : Target → Mode
  | arm64 => .plain
  | amd64 => .mode64

/-- The target with a name. -/
def ofName? (name : String) : Option Target :=
  [arm64, amd64].find? fun target => target.name == name

end Target

/-- Where the code comes from. -/
inductive CodeSource where
  | opcode (text : String)
  | standardInput
  deriving DecidableEq, Repr

/-- What the command line asks for. -/
structure Arguments where
  target : Target
  source : CodeSource
  modulePath : Option String
  configPath : Option String
  deriving DecidableEq, Repr

/-- Why the command line asks for no decoding. -/
inductive UsageError where
  | missingArgument | invalidValue | conflict | unknownArgument | tooManyValues | help | version
  deriving DecidableEq, Repr

/-- The exit status: to ask for help or the version is no error. -/
def UsageError.exitStatus : UsageError → Nat
  | help | version => 0
  | _ => 1

namespace CommandLine

/-- The options that take a value. -/
inductive ValueOption where
  | arch | module | config
  deriving DecidableEq, Repr

/-- What a word is by its form. -/
inductive Word where
  | plain (text : String)
  | terminator
  | option (name : ValueOption) (value : Option String)
  | standardInput
  | help
  | version
  | flagWithValue
  | unknown
  deriving DecidableEq, Repr

namespace Word

/-- The text before the first equals sign, and the text after it if there is one. -/
def splitValue (text : List Char) : String × Option String :=
  let name := String.ofList (text.takeWhile (· ≠ '='))
  match text.dropWhile (· ≠ '=') with
  | [] => (name, none)
  | _ :: value => (name, some (String.ofList value))

/-- A flag that takes no value. -/
def flag (word : Word) : Option String → Word
  | none => word
  | some _ => flagWithValue

/-- A word by what follows its two dashes. -/
def ofLong (text : List Char) : Word :=
  match splitValue text with
  | ("arch", value) => option .arch value
  | ("module", value) => option .module value
  | ("config", value) => option .config value
  | ("stdin", value) => flag standardInput value
  | ("help", value) => flag help value
  | ("version", value) => flag version value
  | _ => unknown

/-- What a word is. A dash alone is plain. -/
def of (text : String) : Word :=
  match text.toList with
  | ['-', '-'] => terminator
  | '-' :: '-' :: rest => ofLong rest
  | '-' :: 'h' :: _ => help
  | '-' :: 'V' :: _ => version
  | '-' :: _ :: _ => unknown
  | _ => plain text

end Word

/-- What has been read so far; `pending` is an option whose value has not been looked at, or has yet to
come. -/
structure Draft where
  target : Option Target := none
  opcode : Option String := none
  standardInput : Bool := false
  modulePath : Option String := none
  configPath : Option String := none
  pending : Option (ValueOption × Option String) := none
  deriving DecidableEq, Repr

namespace Draft

/-- A path given as a value. -/
def path (value : String) : Except UsageError (Option String) :=
  if value.isEmpty then .error .invalidValue else .ok (some value)

/-- Give an option its value; it must not have one. -/
def set (draft : Draft) (name : ValueOption) (value : String) : Except UsageError Draft :=
  match name with
  | .arch =>
    if draft.target.isSome then .error .conflict
    else match Target.ofName? value with
      | some target => .ok { draft with target := some target }
      | none => .error .invalidValue
  | .module =>
    if draft.modulePath.isSome then .error .conflict
    else (path value).map fun modulePath => { draft with modulePath }
  | .config =>
    if draft.configPath.isSome then .error .conflict
    else (path value).map fun configPath => { draft with configPath }

/-- Look at the pending value. -/
def settle (draft : Draft) : Except UsageError Draft :=
  match draft.pending with
  | none => .ok draft
  | some (_, none) => .error .invalidValue
  | some (name, some value) => { draft with pending := none }.set name value

/-- Take a word as the opcode. -/
def takeOpcode (draft : Draft) (text : String) : Except UsageError Draft :=
  if draft.opcode.isSome then .error .unknownArgument
  else draft.settle.map fun draft => { draft with opcode := some text }

/-- Take one word. -/
def take (draft : Draft) : Word → Except UsageError Draft
  | .option name (some value) =>
    match draft.settle with
    | .ok draft => draft.set name value
    | .error e => .error e
  | .option name none =>
    draft.settle.map fun draft => { draft with pending := some (name, none) }
  | .standardInput =>
    match draft.settle with
    | .ok draft =>
      if draft.standardInput then .error .conflict else .ok { draft with standardInput := true }
    | .error e => .error e
  | .help =>
    match draft.settle with
    | .ok _ => .error .help
    | .error e => .error e
  | .version =>
    match draft.settle with
    | .ok _ => .error .version
    | .error e => .error e
  | .flagWithValue => .error .tooManyValues
  | .unknown => .error .unknownArgument
  | .terminator => .ok draft
  | .plain text =>
    match draft.pending with
    | some (name, none) => .ok { draft with pending := some (name, some text) }
    | _ => draft.takeOpcode text

/-- Take the words behind the terminator, all of which are plain. -/
def takeRest : Draft → List String → Except UsageError Draft
  | draft, [] => .ok draft
  | draft, text :: rest =>
    match draft.takeOpcode text with
    | .ok draft => takeRest draft rest
    | .error e => .error e

/-- Take all words. -/
def takeAll : Draft → List String → Except UsageError Draft
  | draft, [] => .ok draft
  | draft, text :: rest =>
    match Word.of text with
    | .terminator => draft.takeRest rest
    | word =>
      match draft.take word with
      | .ok draft => takeAll draft rest
      | .error e => .error e

/-- The module path: the one given, else the one of the environment, which must not be empty. -/
def moduleOr (draft : Draft) (fromEnvironment : Option String) : Except UsageError (Option String) :=
  match draft.modulePath, fromEnvironment with
  | some given, _ => .ok (some given)
  | none, none => .ok none
  | none, some value => path value

/-- Where the code comes from. -/
def source (draft : Draft) : Except UsageError CodeSource :=
  match draft.opcode, draft.standardInput with
  | some _, true => .error .conflict
  | some text, false => .ok (.opcode text)
  | none, true => .ok .standardInput
  | none, false => .error .missingArgument

/-- What is asked for, if nothing is missing. -/
def finish (draft : Draft) (fromEnvironment : Option String) : Except UsageError Arguments := do
  let modulePath ← draft.moduleOr fromEnvironment
  let source ← draft.source
  match draft.target with
  | none => .error .missingArgument
  | some target => return { target, source, modulePath, configPath := draft.configPath }

end Draft

/-- Read the command line, with the module path of the environment. -/
def parse (words : List String) (fromEnvironment : Option String) : Except UsageError Arguments := do
  let draft ← Draft.takeAll {} words
  let draft ← draft.settle
  draft.finish fromEnvironment

end CommandLine

end DecoderHost

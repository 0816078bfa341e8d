import DecoderHost.Engine
import DecoderHost.Guest.Basic
import DecoderHost.SipHash

/-!
Modules: what an engine has compiled. A module comes as a binary, whose header is checked first, or as
text; both are known by the hash of the bytes they came as.
-/

namespace DecoderHost

/-- The form in which a module is handed over. -/
inductive ModuleFormat where
  | binary | text
  deriving DecidableEq, Repr

/-- What a compiler makes of bytes: a guest, or the reason for refusing them. -/
abbrev Compiler (σ : Type) := ModuleFormat → List UInt8 → Except String (Guest σ)

/-- A compiled module. -/
structure Module (σ : Type) where
  contentHash : String
  guest : Guest σ

namespace Module

variable {σ : Type}

/-- The first bytes of every binary. -/
def magic : List UInt8 := [0x00, 0x61, 0x73, 0x6D]

/-- The length of the header of a binary. -/
def headerLength : Nat := 8

/-- Check the header of a binary. -/
def checkHeader (bytes : List UInt8) : Except HostError Unit :=
  if (bytes.take headerLength).length < headerLength then
    .error (.compilationFailed "Invalid Wasm: file too small")
  else if bytes.take magic.length ≠ magic then
    .error (.compilationFailed "Invalid Wasm: bad magic number")
  else .ok ()

/-- How a refusal by the compiler is introduced. -/
def refusal : ModuleFormat → String
  | .binary => "Core module compilation failed: "
  | .text => "WAT compilation failed: "

/-- Check what must hold before a module is compiled. -/
def checkFormat : ModuleFormat → List UInt8 → Except HostError Unit
  | .binary, bytes => checkHeader bytes
  | .text, _ => .ok ()

/-- Compile a module for an engine of a runtime, which may not admit the memory that the module starts with. -/
def compile {ω : Type} (runtime : Runtime ω) (engine : Engine) (compiler : Compiler σ)
    (format : ModuleFormat) (bytes : List UInt8) : Except HostError (Module σ) := do
  checkFormat format bytes
  let admitted := do
    let guest ← compiler format bytes
    runtime.admitMemory engine.config.setup guest.initialPages
    return guest
  match admitted with
  | .error reason => .error (.compilationFailed (refusal format ++ reason))
  | .ok guest => .ok { contentHash := SipHash.contentHash bytes, guest }

/-- The module by its parts. -/
def debug (m : Module σ) : String :=
  s!"CompiledModule \x7b content_hash: {Text.quoted m.contentHash}, .. \x7d"

end Module

end DecoderHost

import DecoderHost.Session.Calls

/-!
Opening a session: the engine is opened through a slot of four bytes that receives its handle, the slot
is given back, and the AT&T syntax is asked for. An engine that rejects the option keeps its syntax.
-/

namespace DecoderHost

/-- Why a session could not be opened. -/
inductive OpenError where
  | host (error : HostError)
  | rejected (arch : Arch) (mode : Mode) (status : Status)
  deriving DecidableEq, Repr

namespace OpenError

/-- The wording of a failed opening. -/
def message : OpenError → String
  | host error => error.message
  | rejected arch mode status =>
    s!"cs_open failed for arch {arch.name} mode {mode.display}: {status.message}"

/-- The failure by its parts. -/
def debug : OpenError → String
  | host error => error.debug
  | rejected arch mode status =>
    "Open \x7b arch: " ++ arch.symbol ++ ", mode: " ++ mode.debug ++ ", code: " ++ status.symbol ++
      " \x7d"

/-- The engine's status, if the engine is what refused. -/
def status? : OpenError → Option Status
  | host _ => none
  | rejected _ _ status => some status

/-- The failures behind this one, outermost first. -/
def causes : OpenError → List String
  | host error => error.causes
  | rejected .. => []

end OpenError

namespace Session

variable {σ : Type}

/-- Set an option of the engine; a rejection is recorded and otherwise ignored. -/
def setOption (g : Guest σ) (handle : UInt32) (option : EngineOption) (value : OptionValue) :
    Host σ Unit := do
  let status ← g.csOption handle option value
  if status ≠ 0 then
    Host.record (.optionRejected option value (Status.ofCode status))

/-- The handle that the engine left in its slot. -/
def readHandle (slot : UInt32) : Host σ UInt32 := do
  match (← Host.memory).readWord32 slot with
  | .ok handle => pure handle
  | .error e => Host.panic (.handleSlot e)

/-- Give the handle slot back; a failure is recorded and otherwise ignored. -/
def freeSlot (g : Guest σ) (slot : UInt32) : Host σ Unit := do
  match ← g.free slot with
  | .ok () => pure ()
  | .error e => Host.record (.slotNotFreed e)

/-- Open the engine of a fresh instance: its handle, or the status with which it refused. -/
def «open» (g : Guest σ) (arch : Arch) (mode : Mode) : Host σ (Except OpenError UInt32) := do
  let slot ← g.malloc 4
  if slot = 0 then
    Host.panic .noHandleSlot
  let status ← g.csOpen arch mode slot
  if status = 0 then
    let handle ← readHandle slot
    freeSlot g slot
    setOption g handle .syntaxFlavour .attSyntax
    return .ok handle
  else
    freeSlot g slot
    return .error (.rejected arch mode (Status.ofCode status))

end Session

end DecoderHost

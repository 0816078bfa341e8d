import DecoderHost.Arch
import DecoderHost.EngineOption
import DecoderHost.Guest.Basic
import DecoderHost.HostError
import DecoderHost.Status

/-!
The host side of a live guest: what the host does to a guest's store, the warnings and errors it records
meanwhile, and the two ways in which it may stop without an answer.

A panic is a broken contract with the guest, such as a missing function or a pointer outside the memory.
A computation given a bound on its decoding steps may also use that bound up.
-/

namespace DecoderHost

/-- What the guest handed over when a memory access failed. -/
inductive GuestDatum where
  | scratchBuffer | cursor | mnemonic | operands
  deriving DecidableEq, Repr

/-- The name of a datum in messages. -/
def GuestDatum.name : GuestDatum → String
  | scratchBuffer => "scratch buffer"
  | cursor => "cursor"
  | mnemonic => "mnemonic"
  | operands => "operand string"

/-- Guest memory that one decode holds: a plain block or the instruction record. -/
inductive Allocation where
  | block (address : UInt32)
  | record (address : UInt32)
  deriving DecidableEq, Repr

/-- An allocation by its kind and address. -/
def Allocation.debug : Allocation → String
  | block address => s!"Block({address})"
  | record address => s!"Record({address})"

/-- A broken contract with the guest. -/
inductive Panic where
  | missingFunction (name : String)
  | argumentCount (name : String) (expected given : Nat)
  | parameterType (name : String) (type : ValueType)
  | resultType (name : String) (value : Value)
  | callFailed (error : HostError)
  | noHandleSlot
  | handleSlot (error : OutOfBounds)
  | noRecord
  | noBlock (size : Nat)
  | inputTooLong (length : Nat)
  | addressOverflow
  | invalidDatum (datum : GuestDatum) (error : OutOfBounds)
  | usedAfterClose (arch : Arch)
  deriving DecidableEq, Repr

/-- The wording of a panic. -/
def Panic.message : Panic → String
  | missingFunction name => s!"decoder module does not export `{name}`"
  | argumentCount name expected given => s!"`{name}` takes {expected} arguments, called with {given}"
  | parameterType name type => s!"`{name}` has non-integer parameter type {type.name}"
  | resultType name value => s!"`{name}` returned non-integer value {value.debug}"
  | callFailed error => error.message
  | noHandleSlot => "decoder malloc failed for the handle slot"
  | handleSlot error => s!"decoder handle slot: {error.message}"
  | noRecord => "decoder cs_malloc failed"
  | noBlock size => s!"decoder malloc({size}) failed"
  | inputTooLong length => s!"{length} byte input exceeds the decoder's address space"
  | addressOverflow => "attempt to add with overflow"
  | invalidDatum datum error => s!"decoder returned an invalid {datum.name}: {error.message}"
  | usedAfterClose arch => s!"{arch.name} disassembler used after close"

/-- A warning or an error worth recording. -/
inductive Event where
  | slotNotFreed (error : HostError)
  | optionRejected (option : EngineOption) (value : OptionValue) (status : Status)
  | scratchNotReleased (allocation : Allocation) (error : HostError)
  | invalidDatum (datum : GuestDatum) (error : OutOfBounds)
  deriving DecidableEq, Repr

namespace Event

/-- The severity of an event. -/
def level : Event → String
  | invalidDatum .. => "ERROR"
  | _ => "WARN"

/-- The wording of an event. -/
def message : Event → String
  | slotNotFreed _ => "Failed to free the handle slot"
  | optionRejected .. => "Decoder rejected option"
  | scratchNotReleased .. => "Failed to release decoder scratch memory"
  | invalidDatum datum _ => s!"Decoder returned an invalid {datum.name}"

/-- The named details of an event. -/
def fields : Event → List (String × String)
  | slotNotFreed error => [("error", error.message)]
  | optionRejected option value status =>
    [("option", option.name), ("value", toString value.bits.toNat), ("error", status.message)]
  | scratchNotReleased allocation error =>
    [("allocation", allocation.debug), ("error", error.message)]
  | invalidDatum _ error => [("error", error.message)]

end Event

/-- Why a host computation stopped without an answer. -/
inductive Stop where
  | panic (panic : Panic)
  | stepsExhausted
  deriving DecidableEq, Repr

/-- What a host computation works on: the guest's store and the events so far, in order. -/
structure Scene (σ : Type) where
  store : Store σ
  events : Array Event := #[]

/-- A host computation over a live guest. It changes the scene even when it stops early. -/
abbrev Host (σ α : Type) := ExceptT Stop (StateM (Scene σ)) α

namespace Host

variable {σ α : Type}

/-- Stop with a panic. -/
def panic (p : Panic) : Host σ α := throw (.panic p)

/-- Record an event. -/
def record (event : Event) : Host σ Unit :=
  modify fun scene => { scene with events := scene.events.push event }

/-- The guest's memory as it stands. -/
def memory : Host σ Memory := return (← get).store.memory

/-- Record that the guest handed over something invalid, and panic. -/
def invalid (datum : GuestDatum) (error : OutOfBounds) : Host σ α := do
  record (.invalidDatum datum error)
  panic (.invalidDatum datum error)

/-- Look something up in the guest's memory; a refused access is the guest's fault. -/
def inspect (datum : GuestDatum) (look : Memory → Except OutOfBounds α) : Host σ α := do
  match look (← memory) with
  | .ok a => pure a
  | .error e => invalid datum e

/-- Change the guest's memory; a refused access is the guest's fault, and what was written before it stays. -/
def alter (datum : GuestDatum) (change : Memory → Except OutOfBounds Unit × Memory) : Host σ Unit := do
  let (outcome, changed) := change (← memory)
  modify fun scene => { scene with store.memory := changed }
  match outcome with
  | .ok () => pure ()
  | .error e => invalid datum e

/-- Run a computation, then `finish` whether it gave an answer or panicked. A panic of `finish` takes
precedence, and what surrounds the computation is finished all the same. A host that finishes while it unwinds
is aborted where `finish` panics in turn, and after an answer leaves out what is still due; so this tells what
it does as long as `finish` does not panic. A release does not, for a guest whose `free` and `cs_free` take the
numbers they are given, as integers, and give integers or nothing. -/
def ensuring (body : Host σ α) (finish : Host σ Unit) : Host σ α := fun scene =>
  match body scene with
  | (.error .stepsExhausted, scene) => (.error .stepsExhausted, scene)
  | (outcome, scene) =>
    match finish scene with
    | (.ok (), scene) => (outcome, scene)
    | (.error stop, scene) => (.error stop, scene)

end Host

end DecoderHost

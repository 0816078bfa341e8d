import DecoderHost.Disassembly
import DecoderHost.Session.Calls
import DecoderHost.Text.Utf8

/-!
Decoding one byte string in an open session.

The host allocates an instruction record, a cursor of sixteen bytes and a copy of the input, points the
cursor at the copy, and lets the guest decode one instruction after another until it reports that there
is none. The guest moves the cursor itself: a pointer to the next byte, the number of bytes left, and the
offset reached, all little-endian. The three allocations are released in reverse order on every way out.
-/

namespace DecoderHost.Session

variable {σ α : Type}

/-- The size of the cursor block. -/
def cursorSize : Nat := 16

/-- The parts of a cursor block: the slots of the code pointer, of the size left and of the offset. -/
structure Cursor where
  codeSlot : UInt32
  sizeSlot : UInt32
  offsetSlot : UInt32
  deriving DecidableEq, Repr

/-- The parts of the cursor block at an address, unless they pass the end of the address space. -/
def Cursor.at? (address : UInt32) : Option Cursor :=
  if address.toNat + 8 < 4294967296 then some ⟨address, address + 4, address + 8⟩ else none

/-- Put the code into the input block and point the cursor at its first byte, with all of it left and the
offset at zero. -/
def seed (m : Memory) (input : UInt32) (code : List UInt8) (cursor : Cursor) :
    Except OutOfBounds Unit × Memory :=
  Memory.editAll [
    fun m => m.write input code,
    fun m => m.writeWord32 cursor.codeSlot input,
    fun m => m.writeWord32 cursor.sizeSlot (UInt32.ofNat code.length),
    fun m => m.writeWord64 cursor.offsetSlot 0] m

/-- Release scratch memory; a failure is recorded and otherwise ignored. -/
def release (g : Guest σ) (allocation : Allocation) : Host σ Unit := do
  let released ← match allocation with
    | .block address => g.free address
    | .record address => g.csFree address 1
  match released with
  | .ok () => pure ()
  | .error e => Host.record (.scratchNotReleased allocation e)

/-- Use an allocation and release it afterwards. -/
def withAllocation (g : Guest σ) (allocation : Allocation) (body : Host σ α) : Host σ α :=
  Host.ensuring body (release g allocation)

/-- Use a block of `size` bytes; only an empty block may have the address zero. -/
def withBlock (g : Guest σ) (size : Nat) (body : UInt32 → Host σ α) : Host σ α := do
  let address ← g.malloc size
  if address = 0 ∧ size ≠ 0 then
    Host.panic (.noBlock size)
  withAllocation g (.block address) (body address)

/-- Use an instruction record. -/
def withRecord (g : Guest σ) (handle : UInt32) (body : UInt32 → Host σ α) : Host σ α := do
  let address ← g.csMalloc handle
  if address = 0 then
    Host.panic .noRecord
  withAllocation g (.record address) (body address)

/-- The text at an address of the guest, malformed parts replaced. -/
def guestText (datum : GuestDatum) (address : UInt32) : Host σ String := do
  let bytes ← Host.inspect datum fun m => m.readTerminated address
  return String.ofList (Text.Utf8.repair bytes)

/-- Let the guest decode until it reports that there is no further instruction, at most `steps` times;
the instructions are appended to those given. -/
def decodeAll (g : Guest σ) (handle : UInt32) (cursor : Cursor) (record : UInt32) :
    Nat → Array Instruction → Host σ (Array Instruction)
  | 0, _ => throw .stepsExhausted
  | steps + 1, decoded => do
    let offset ← Host.inspect .cursor fun m => m.readWord64 cursor.offsetSlot
    if ← g.csDisasmIter handle cursor.codeSlot cursor.sizeSlot cursor.offsetSlot record then
      let mnemonicAt ← g.csMnemonic record
      let operandsAt ← g.csOperands record
      let mnemonic ← guestText .mnemonic mnemonicAt
      let operands ← guestText .operands operandsAt
      decodeAll g handle cursor record steps (decoded.push ⟨offset, mnemonic, operands⟩)
    else
      return decoded

/-- Decode with all scratch memory in place. -/
def decodeIn (g : Guest σ) (handle : UInt32) (steps : Nat) (code : List UInt8)
    (record block input : UInt32) : Host σ Disassembly := do
  match Cursor.at? block with
  | none => Host.panic .addressOverflow
  | some cursor =>
    Host.alter .scratchBuffer fun m => seed m input code cursor
    let decoded ← decodeAll g handle cursor record steps #[]
    let remaining ← Host.inspect .cursor fun m => m.readWord32 cursor.sizeSlot
    return ⟨decoded.toList, remaining.toNat⟩

/-- Decode a byte string, with at most `steps` rounds of the guest. -/
def disassemble (g : Guest σ) (handle : UInt32) (steps : Nat) (code : List UInt8) :
    Host σ Disassembly := do
  if 4294967296 ≤ code.length then
    Host.panic (.inputTooLong code.length)
  withRecord g handle fun record =>
    withBlock g cursorSize fun block =>
      withBlock g code.length fun input =>
        decodeIn g handle steps code record block input

end DecoderHost.Session

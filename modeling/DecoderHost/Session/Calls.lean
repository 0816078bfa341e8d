import DecoderHost.Guest.Call
import DecoderHost.Mode

/-!
The functions of a decoder module, with pointers as 32-bit addresses.

Every function panics on a trap except the two that release memory, which are used to clean up and give
the trap back as an error. The function that allocates looks the matching release up first, so that a
release can never fail for want of the function.
-/

namespace DecoderHost.Guest

variable {σ : Type}

/-- The functions a decoder module must export. -/
def requiredFunctions : List String :=
  ["malloc", "free", "cs_open", "cs_option", "cs_malloc", "cs_free", "cs_disasm_iter",
    "cs_get_mnemonic", "cs_get_op_str"]

/-- Allocate a block of `size` bytes. -/
def malloc (g : Guest σ) (size : Nat) : Host σ UInt32 := do
  g.resolve "free"
  return (← g.call "malloc" [UInt64.ofNat size]).toUInt32

/-- Release a block. -/
def free (g : Guest σ) (block : UInt32) : Host σ (Except HostError Unit) := do
  return (← g.tryCall "free" [block.toUInt64]).map fun _ => ()

/-- Open the engine; the handle is left in the slot, and the status is returned. -/
def csOpen (g : Guest σ) (arch : Arch) (mode : Mode) (slot : UInt32) : Host σ UInt32 := do
  return (← g.call "cs_open"
    [UInt64.ofNat arch.number, UInt64.ofNat mode.bits.toNat, slot.toUInt64]).toUInt32

/-- Set an option of the engine; the status is returned. -/
def csOption (g : Guest σ) (handle : UInt32) (option : EngineOption) (value : OptionValue) :
    Host σ UInt32 := do
  return (← g.call "cs_option"
    [handle.toUInt64, UInt64.ofNat option.number, UInt64.ofNat value.bits.toNat]).toUInt32

/-- Allocate an instruction record. -/
def csMalloc (g : Guest σ) (handle : UInt32) : Host σ UInt32 := do
  g.resolve "cs_free"
  return (← g.call "cs_malloc" [handle.toUInt64]).toUInt32

/-- Release `count` instruction records. -/
def csFree (g : Guest σ) (record : UInt32) (count : Nat) : Host σ (Except HostError Unit) := do
  return (← g.tryCall "cs_free" [record.toUInt64, UInt64.ofNat count]).map fun _ => ()

/-- Decode one instruction and move the cursor past it; false when there is none. -/
def csDisasmIter (g : Guest σ) (handle codeSlot sizeSlot addressSlot record : UInt32) :
    Host σ Bool := do
  return (← g.call "cs_disasm_iter" [handle.toUInt64, codeSlot.toUInt64, sizeSlot.toUInt64,
    addressSlot.toUInt64, record.toUInt64]) != 0

/-- The address of a record's mnemonic. -/
def csMnemonic (g : Guest σ) (record : UInt32) : Host σ UInt32 := do
  return (← g.call "cs_get_mnemonic" [record.toUInt64]).toUInt32

/-- The address of a record's operand text. -/
def csOperands (g : Guest σ) (record : UInt32) : Host σ UInt32 := do
  return (← g.call "cs_get_op_str" [record.toUInt64]).toUInt32

end DecoderHost.Guest

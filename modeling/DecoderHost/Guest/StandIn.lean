import DecoderHost.Guest.Action
import DecoderHost.Guest.StandIn.Source

/-!
The stand-in decoder: a toy encoding of one byte for each instruction, two for `syscall`, behind the
exports of a real decoder. It opens for Arm and AArch64 in any mode and for x86 in a mode that sets the
width of a word. Its heap grows upwards and starts afresh when the last allocation is released; functions
of its own tell how many are alive and what options were set.
-/

namespace DecoderHost.StandIn

/-- The decoder's variables. -/
structure Globals where
  heap : UInt32 := 4096
  live : UInt32 := 0
  syntaxValue : UInt32 := 0
  opened : UInt32 := 0
  optionCalls : UInt32 := 0
  optionType : UInt32 := 0
  optionValue : UInt32 := 0
  deriving DecidableEq, Repr

/-- What the stand-in's code does. -/
abbrev Code := GuestAction Globals

open GuestAction

/-- A text in the module's memory: its address and its size with the terminator. -/
structure Phrase where
  address : UInt32
  size : Nat
  deriving DecidableEq, Repr

/-- The texts in the module's memory. -/
def texts : List (Nat × String) :=
  [(256, "nop"), (264, "ret"), (272, "add"), (280, "%eax, %ecx"), (296, "ecx, eax"),
    (312, "syscall"), (320, "hint"), (328, "#0x90"), (336, ""), (344, "w1, w1, w1")]

/-- The memory of a fresh stand-in. -/
def initialMemory : Memory :=
  texts.foldl (fun m (address, text) => m.patch address (text.toUTF8.toList ++ [0]))
    (Memory.ofPages 1)

/-- Take `size` bytes from the heap, aligned to eight. -/
def malloc (size : UInt32) : Code UInt32 := do
  let block := (← globals).heap
  modifyGlobals fun v =>
    { v with heap := (block + size + 7) &&& 0xFFFFFFF8, live := v.live + 1 }
  pure block

/-- Give an allocation back; the zero address is none. -/
def free (block : UInt32) : Code Unit := do
  if block ≠ 0 then
    modifyGlobals fun v =>
      let live := v.live - 1
      { v with live, heap := if live = 0 then 4096 else v.heap }

/-- Open the engine for an architecture, whose handle is its number plus 256. -/
def csOpen (arch mode slot : UInt32) : Code UInt32 := do
  if arch = 3 ∧ mode &&& 14 = 0 then
    return 5
  if arch > 1 ∧ arch ≠ 3 then
    return 2
  store32 slot (arch + 256)
  modifyGlobals fun v => { v with opened := v.opened + 1 }
  return 0

/-- Set an option; there is only the syntax. -/
def csOption (type value : UInt32) : Code UInt32 := do
  modifyGlobals fun v =>
    { v with optionCalls := v.optionCalls + 1, optionType := type, optionValue := value }
  if type ≠ 1 then
    return 6
  modifyGlobals fun v => { v with syntaxValue := value }
  return 0

/-- Copy bytes inside the memory. -/
def copy (target source : UInt32) (size : Nat) : Code Unit := do
  let bytes : List UInt8 ← fun s =>
    if source.toNat + size ≤ s.memory.size then (.ok (s.memory.slice source.toNat size), s)
    else (.error .outOfBounds, s)
  store bytes target 0

/-- Fill a record: the mnemonic at its start, the operands 32 bytes on. -/
def emit (record : UInt32) (mnemonic operands : Phrase) : Code Unit := do
  copy record mnemonic.address mnemonic.size
  copy (record + 32) operands.address operands.size

/-- What the decoder makes of a byte. -/
inductive Reading where
  | instruction (length : UInt32) (mnemonic operands : Phrase)
  | undecodable
  | trap
  deriving DecidableEq, Repr

/-- The empty operand text. -/
def noOperands : Phrase := ⟨336, 1⟩

/-- The reading of a byte on x86, in the syntax with the given number, with `size` bytes left. -/
def readX86 (syntaxValue size : UInt32) (byte : UInt8) : Reading :=
  match byte with
  | 0x90 => .instruction 1 ⟨256, 4⟩ noOperands
  | 0xC3 => .instruction 1 ⟨264, 4⟩ noOperands
  | 0x01 => .instruction 1 ⟨272, 4⟩ (if syntaxValue = 8 then ⟨280, 11⟩ else ⟨296, 9⟩)
  | 0x0F => if size < 2 then .undecodable else .instruction 2 ⟨312, 8⟩ noOperands
  | 0xCC => .trap
  | _ => .undecodable

/-- The reading of a byte on Arm and AArch64. -/
def readArm (byte : UInt8) : Reading :=
  match byte with
  | 0x90 => .instruction 1 ⟨320, 5⟩ ⟨328, 6⟩
  | 0xC3 => .instruction 1 ⟨264, 4⟩ noOperands
  | 0x01 => .instruction 1 ⟨272, 4⟩ ⟨344, 11⟩
  | _ => .undecodable

/-- Decode one instruction and move the cursor past it. -/
def csDisasmIter (handle codeSlot sizeSlot offsetSlot record : UInt32) : Code UInt32 := do
  let size ← load32 sizeSlot
  if size = 0 then
    return 0
  let code ← load32 codeSlot
  let byte ← load8 code
  let syntaxValue := (← globals).syntaxValue
  match if handle = 259 then readX86 syntaxValue size byte else readArm byte with
  | .undecodable => return 0
  | .trap => trap .unreachable
  | .instruction length mnemonic operands =>
    emit record mnemonic operands
    store32 codeSlot (code + length)
    store32 sizeSlot (size - length)
    store64 offsetSlot ((← load64 offsetSlot) + length.toUInt64)
    return 1

/-- The module's functions: name, number of parameters, and whether there is a result. -/
def functions : List (String × Nat × Bool) :=
  [("malloc", 1, true), ("free", 1, false), ("live_allocations", 0, true), ("syntax", 0, true),
    ("opened", 0, true), ("option_calls", 0, true), ("option_type", 0, true),
    ("option_value", 0, true), ("cs_open", 3, true), ("cs_option", 3, true),
    ("cs_malloc", 1, true), ("cs_free", 2, false), ("cs_get_mnemonic", 1, true),
    ("cs_get_op_str", 1, true), ("cs_disasm_iter", 5, true)]

/-- The result of a function that gives one word. -/
def one (code : Code UInt32) : Code (List Value) := do return [.i32 (← code)]

/-- What calling an exported function does. -/
def invoke : String → List Value → Code (List Value)
  | "malloc", [.i32 size] => one (malloc size)
  | "free", [.i32 block] => do free block; pure []
  | "live_allocations", [] => one do return (← globals).live
  | "syntax", [] => one do return (← globals).syntaxValue
  | "opened", [] => one do return (← globals).opened
  | "option_calls", [] => one do return (← globals).optionCalls
  | "option_type", [] => one do return (← globals).optionType
  | "option_value", [] => one do return (← globals).optionValue
  | "cs_open", [.i32 arch, .i32 mode, .i32 slot] => one (csOpen arch mode slot)
  | "cs_option", [_, .i32 type, .i32 value] => one (csOption type value)
  | "cs_malloc", [_] => one (malloc 64)
  | "cs_free", [.i32 record, _] => do free record; pure []
  | "cs_get_mnemonic", [.i32 record] => pure [.i32 record]
  | "cs_get_op_str", [.i32 record] => pure [.i32 (record + 32)]
  | "cs_disasm_iter", [.i32 handle, .i32 codeSlot, .i32 sizeSlot, .i32 offsetSlot, .i32 record] =>
    one (csDisasmIter handle codeSlot sizeSlot offsetSlot record)
  | _, _ => trap .unreachable

/-- The stand-in decoder. -/
def guest : Guest Globals where
  exports := ("memory", .memory) :: functions.map fun (name, parameters, hasResult) =>
    (name, .function ⟨List.replicate parameters .i32, if hasResult then [.i32] else []⟩)
  initialPages := 1
  start limit surroundings := .ok {
    memory := initialMemory
    pageLimit := min limit Memory.maxPages
    globals := {}
    surroundings }
  invoke := invoke

end DecoderHost.StandIn

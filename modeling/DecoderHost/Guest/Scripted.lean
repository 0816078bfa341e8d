import DecoderHost.Guest.Action
import DecoderHost.Text.Numeral

/-!
A decoder that follows a script: it decodes by a table with one entry for each byte, keeps a log of the
calls it receives inside its own memory, and can be told to misbehave at every point where the host
depends on it.

The memory holds the table from `tableBase`, the texts of instructions from `textBase`, the log from
`logBase` to `logEnd`, and a heap from `heapBase` that starts afresh when nothing is allocated.
-/

namespace DecoderHost

namespace Scripted

/-- What the decoder does with a byte. -/
inductive Action where
  | none | instruction | unreachable | log | clearLog | grow | setRemaining | outOfBounds | divideByZero
  | overflow | callImport | setAddress
  deriving DecidableEq, Repr

/-- The number of an action in the table. -/
def Action.number : Action → Nat
  | none => 0
  | instruction => 1
  | unreachable => 2
  | log => 3
  | clearLog => 4
  | grow => 5
  | setRemaining => 6
  | outOfBounds => 7
  | divideByZero => 8
  | overflow => 9
  | callImport => 10
  | setAddress => 11

/-- A text of an instruction: stored with the script, or at an address given outright. -/
inductive TextSource where
  | stored (bytes : List UInt8)
  | address (value : UInt32)
  deriving DecidableEq, Repr

/-- The entry for one byte. -/
structure Entry where
  byte : UInt8
  action : Action := .instruction
  length : UInt32 := 1
  mnemonic : TextSource := .stored []
  operands : TextSource := .stored []
  advance : UInt64 := 1
  deriving DecidableEq, Repr

/-- How one of the decoder's functions departs from the normal one. -/
inductive Variant where
  | normal | missing | global | traps | extraParameter | floatParameter | floatResult | noResult
  | twoResults | wide
  deriving DecidableEq, Repr

/-- What an initialiser does. -/
inductive Initialiser where
  | log | trap (trap : Trap) | callImport | takesArgument | givesResult | global
  deriving DecidableEq, Repr

/-- A name under which an initialiser may be offered. -/
inductive Entrance where
  | reactor | command | startSection
  deriving DecidableEq, Repr

/-- What the host lacks and the module asks for. -/
inductive Import where
  | function | global | table
  deriving DecidableEq, Repr

end Scripted

/-- A script for a decoder. -/
structure Script where
  pages : Nat := 1
  maxPages : Option Nat := none
  handle : UInt32 := 0x101
  openStatus : UInt32 := 0
  optionStatus : UInt32 := 0
  storesHandle : Bool := true
  growsHeap : Bool := false
  mallocOverride : Option (UInt32 × UInt32) := none
  recordAddress : Option UInt32 := none
  variants : List (String × Scripted.Variant) := []
  memoryName : Option String := some "memory"
  imports : List Scripted.Import := []
  initialisers : List (Scripted.Entrance × Scripted.Initialiser) := []
  table : List Scripted.Entry := []

namespace Scripted

/-- Where the table starts. -/
def tableBase : UInt32 := 0x1000

/-- Where the texts start. -/
def textBase : UInt32 := 0x3000

/-- Where the log starts. -/
def logBase : UInt32 := 0x6000

/-- Where the log takes no more. -/
def logEnd : UInt32 := 0x7FFE

/-- Where the heap starts. -/
def heapBase : UInt32 := 0x8000

/-- The name of the import that nobody defines. -/
def importName : String := "env::mystery"

/-- The decoder's variables: the top of the heap, the allocations alive, the calls of `malloc` so far, and
the next place in the log. -/
structure Globals where
  heap : UInt32 := heapBase
  live : UInt32 := 0
  mallocs : UInt32 := 0
  logNext : UInt32 := logBase
  deriving DecidableEq, Repr

/-- What the scripted decoder's code does. -/
abbrev Code := GuestAction Globals

open GuestAction

/-! ## The log -/

/-- Append one character to the log, which always ends with a zero byte. -/
def logByte (b : UInt8) : Code Unit := do
  let next := (← globals).logNext
  if next < logEnd then
    store8 next b
    modifyGlobals fun v => { v with logNext := next + 1 }
    store8 (next + 1) 0

/-- The characters of a text that holds only ASCII. -/
def ascii (text : List Char) : List UInt8 :=
  text.map fun c => UInt8.ofNat c.toNat

/-- Append a text to the log; a full log takes nothing. -/
def logText (text : Unit → List UInt8) : Code Unit := do
  if (← globals).logNext < logEnd then
    (text ()).forM logByte

/-- Log a call: a letter, then each argument in hexadecimal with a comma. -/
def logCall (letter : Char) (arguments : List UInt32) : Code Unit :=
  logText fun _ => ascii <|
    letter :: arguments.flatMap fun a => Nat.toDigits 16 a.toNat ++ [',']

/-- Log the end of a call. -/
def logEndOfCall : Code Unit := logText fun _ => ascii [';']

/-- Log the result of a call and give it. -/
def logResult (value : UInt32) : Code UInt32 := do
  logText fun _ => ascii ('>' :: Nat.toDigits 16 value.toNat ++ [';'])
  pure value

/-! ## The heap -/

/-- Grow the memory so that it reaches `top`, if that is possible. -/
def growTo (top : UInt32) : Code Unit := do
  let size := (← memoryPages) * 65536
  if top > size then
    let _ ← growMemory ((top - size + 65535) / 65536)

/-- Take `size` bytes from the heap, aligned to eight. -/
def allocate (script : Script) (size : UInt32) : Code UInt32 := do
  let block := (← globals).heap
  let top := (block + size + 7) &&& 0xFFFFFFF8
  modifyGlobals fun v => { v with heap := top, live := v.live + 1 }
  if script.growsHeap then
    growTo top
  pure block

/-- Give an allocation back. The zero address and an overriding one are no allocations. -/
def release (script : Script) (block : UInt32) : Code Unit := do
  let isOverride := match script.mallocOverride with
    | some (call, value) => call != 0 && block == value
    | none => false
  if block != 0 && !isOverride then
    modifyGlobals fun v =>
      let live := v.live - 1
      { v with live, heap := if live = 0 then heapBase else v.heap }

/-! ## The decoder's functions -/

/-- Allocate a block. -/
def malloc (script : Script) (size : UInt32) : Code UInt32 := do
  logCall 'M' [size]
  modifyGlobals fun v => { v with mallocs := v.mallocs + 1 }
  match script.mallocOverride with
  | some (call, value) =>
    if (← globals).mallocs = call then logResult value
    else logResult (← allocate script size)
  | none => logResult (← allocate script size)

/-- Release a block. -/
def free (script : Script) (block : UInt32) : Code Unit := do
  logCall 'F' [block]
  logEndOfCall
  release script block

/-- Open the engine. -/
def csOpen (script : Script) (arch mode slot : UInt32) : Code UInt32 := do
  logCall 'O' [arch, mode, slot]
  if script.storesHandle then
    store32 slot script.handle
  logResult script.openStatus

/-- Set an option. -/
def csOption (script : Script) (handle option value : UInt32) : Code UInt32 := do
  logCall 'T' [handle, option, value]
  logResult script.optionStatus

/-- Allocate an instruction record. -/
def csMalloc (script : Script) (handle : UInt32) : Code UInt32 := do
  logCall 'C' [handle]
  match script.recordAddress with
  | some address => logResult address
  | none => logResult (← allocate script 64)

/-- Release an instruction record. -/
def csFree (script : Script) (record count : UInt32) : Code Unit := do
  logCall 'G' [record, count]
  logEndOfCall
  if script.recordAddress.isNone then
    release script record

/-- The address of a record's mnemonic. -/
def csMnemonic (record : UInt32) : Code UInt32 := do
  logCall 'N' [record]
  logEndOfCall
  load32 record

/-- The address of a record's operand text. -/
def csOperands (record : UInt32) : Code UInt32 := do
  logCall 'P' [record]
  logEndOfCall
  load32 (record + 4)

/-- Call the import that nobody defines; without it there is nothing to call. -/
def callImport (script : Script) : Code Unit :=
  if .function ∈ script.imports then trap (.undefinedImport importName) else trap .unreachable

/-- Fill the record and move the cursor past an instruction. -/
def emit (entry : UInt32) (action : Nat) (code size length : UInt32)
    (codeSlot sizeSlot offsetSlot record : UInt32) : Code Unit := do
  store32 record (← load32 entry 8)
  let operands ← load32 entry 12
  store32 record (if action = Action.log.number then logBase else operands) 4
  store32 codeSlot (code + length)
  store32 sizeSlot (size - length)
  let advance ← load64 entry 16
  let offset ← load64 offsetSlot
  store64 offsetSlot (if action = Action.setAddress.number then advance else advance + offset)

/-- Follow the entry of the byte at hand. -/
def follow (script : Script) (code size codeSlot sizeSlot offsetSlot record : UInt32) :
    Code UInt32 := do
  let byte ← load8 code
  let entry := tableBase + byte.toUInt32 * 32
  let action := (← load32 entry).toNat
  let length ← load32 entry 4
  if action = Action.none.number then
    return 0
  if action = Action.unreachable.number then
    trap .unreachable
  if action = Action.setRemaining.number then
    store32 sizeSlot length
    return 0
  if action = Action.outOfBounds.number then
    let _ ← load32 0xFFFFFFF8
  if action = Action.divideByZero.number then
    trap .divideByZero
  if action = Action.overflow.number then
    trap .stackExhausted
  if action = Action.callImport.number then
    callImport script
  if length > size then
    return 0
  if action = Action.clearLog.number then
    modifyGlobals fun v => { v with logNext := logBase }
    store8 logBase 0
  if action = Action.grow.number then
    let _ ← growMemory 1
  emit entry action code size length codeSlot sizeSlot offsetSlot record
  return 1

/-- Decode one instruction. -/
def csDisasmIter (script : Script) (handle codeSlot sizeSlot offsetSlot record : UInt32) :
    Code UInt32 := do
  logCall 'D' [handle, codeSlot, sizeSlot, offsetSlot, record]
  logEndOfCall
  let size ← load32 sizeSlot
  if size = 0 then
    return 0
  let code ← load32 codeSlot
  follow script code size codeSlot sizeSlot offsetSlot record

/-! ## Exports -/

/-- The decoder's functions: name, number of parameters, and whether there is a result. -/
def functions : List (String × Nat × Bool) :=
  [("malloc", 1, true), ("free", 1, false), ("cs_open", 3, true), ("cs_option", 3, true),
    ("cs_malloc", 1, true), ("cs_free", 2, false), ("cs_disasm_iter", 5, true),
    ("cs_get_mnemonic", 1, true), ("cs_get_op_str", 1, true)]

/-- What a function does with its arguments, given as 32-bit words. -/
def perform (script : Script) : String → List UInt32 → Code (Option UInt32)
  | "malloc", size :: _ => some <$> malloc script size
  | "free", block :: _ => do free script block; pure none
  | "cs_open", arch :: mode :: slot :: _ => some <$> csOpen script arch mode slot
  | "cs_option", handle :: option :: value :: _ => some <$> csOption script handle option value
  | "cs_malloc", handle :: _ => some <$> csMalloc script handle
  | "cs_free", record :: count :: _ => do csFree script record count; pure none
  | "cs_disasm_iter", handle :: codeSlot :: sizeSlot :: offsetSlot :: record :: _ =>
    some <$> csDisasmIter script handle codeSlot sizeSlot offsetSlot record
  | "cs_get_mnemonic", record :: _ => some <$> csMnemonic record
  | "cs_get_op_str", record :: _ => some <$> csOperands record
  | _, _ => pure none

/-- The signature of a function in a variant. -/
def Variant.signature (parameters : Nat) (hasResult : Bool) : Variant → Signature
  | .extraParameter => ⟨List.replicate (parameters + 1) .i32, if hasResult then [.i32] else []⟩
  | .floatParameter =>
    ⟨.f32 :: List.replicate (parameters - 1) .i32, if hasResult then [.i32] else []⟩
  | .floatResult => ⟨List.replicate parameters .i32, [.f64]⟩
  | .noResult => ⟨List.replicate parameters .i32, []⟩
  | .twoResults => ⟨List.replicate parameters .i32, [.i32, .i64]⟩
  | .wide => ⟨List.replicate parameters .i64, if hasResult then [.i64] else []⟩
  | _ => ⟨List.replicate parameters .i32, if hasResult then [.i32] else []⟩

/-- What a function in a variant is exported as, if at all. -/
def Variant.exported (parameters : Nat) (hasResult : Bool) : Variant → Option Export
  | .missing => none
  | .global => some .global
  | variant => some (.function (variant.signature parameters hasResult))

/-- The wide form of a result: bits above the low word are set, except that a decoder step has its answer
there. -/
def widen (name : String) (value : UInt32) : UInt64 :=
  if name = "cs_disasm_iter" then value.toUInt64 <<< 32 else value.toUInt64 ||| 0x500000000

/-- The results of a function in a variant. -/
def Variant.results (name : String) (result : Option UInt32) : Variant → List Value
  | .floatResult => [.f64 0x3FF8000000000000]
  | .noResult => []
  | .twoResults => [.i32 (result.getD 0), .i64 99]
  | .wide => (result.map fun value => Value.i64 (widen name value)).toList
  | _ => (result.map Value.i32).toList

/-- The low word of an integer value. -/
def lowWord : Value → UInt32
  | .i32 bits => bits
  | .i64 bits => bits.toUInt32
  | _ => 0

/-- The variant in which a function is offered. -/
def variantOf (script : Script) (name : String) : Variant :=
  (script.variants.lookup name).getD .normal

/-- The name an initialiser is exported under. -/
def Entrance.name? : Entrance → Option String
  | .reactor => some "_initialize"
  | .command => some "_start"
  | .startSection => none

/-- The letter an initialiser logs. -/
def Entrance.letter : Entrance → Char
  | .command => 'S'
  | _ => 'I'

/-- What an initialiser is exported as. -/
def Initialiser.exported : Initialiser → Export
  | .takesArgument => .function ⟨[.i32], []⟩
  | .givesResult => .function ⟨[], [.i32]⟩
  | .global => .global
  | _ => .function ⟨[], []⟩

/-- What an initialiser does. -/
def initialise (script : Script) (entrance : Entrance) : Initialiser → Code (List Value)
  | .log => do
    logText fun _ => ascii [entrance.letter, ';']
    pure []
  | .trap t => trap t
  | .callImport => do callImport script; pure []
  | .givesResult => pure [.i32 0]
  | _ => pure []

/-- The initialiser offered under a name. -/
def initialiser? (script : Script) (name : String) : Option (Entrance × Initialiser) :=
  script.initialisers.find? fun (entrance, _) => entrance.name? == some name

/-- The exports of the module. -/
def exports (script : Script) : List (String × Export) :=
  (script.memoryName.map fun name => (name, Export.memory)).toList ++
    functions.filterMap (fun (name, parameters, hasResult) =>
      ((variantOf script name).exported parameters hasResult).map fun e => (name, e)) ++
    script.initialisers.filterMap fun (entrance, what) =>
      entrance.name?.map fun name => (name, what.exported)

/-- What calling an exported function does. -/
def invoke (script : Script) (name : String) (arguments : List Value) : Code (List Value) :=
  match initialiser? script name with
  | some (entrance, what) => initialise script entrance what
  | none =>
    match variantOf script name with
    | .traps => trap .unreachable
    | variant => do
      let result ← perform script name (arguments.map lowWord)
      pure (variant.results name result)

/-! ## The fresh module -/

/-- The bytes a text takes, with its terminator. -/
def TextSource.bytes : TextSource → List UInt8
  | .stored bytes => bytes ++ [0]
  | .address _ => []

/-- The address of a text that would be stored at `next`. -/
def TextSource.place (next : UInt32) : TextSource → UInt32
  | .stored _ => next
  | .address value => value

/-- The bytes of one entry with its texts placed. -/
def Entry.encode (entry : Entry) (mnemonic operands : UInt32) : List UInt8 :=
  Word.littleEndian 4 entry.action.number ++ Word.littleEndian 4 entry.length.toNat ++
    Word.littleEndian 4 mnemonic.toNat ++ Word.littleEndian 4 operands.toNat ++
    Word.littleEndian 8 entry.advance.toNat ++ Word.littleEndian 8 0

/-- Write entries and their texts into a memory, the texts one after another from `next` on. -/
def placeEntries : List Entry → UInt32 → Memory → Memory
  | [], _, m => m
  | entry :: rest, next, m =>
    let operandsAt := next + UInt32.ofNat entry.mnemonic.bytes.length
    let mnemonic := entry.mnemonic.place next
    let operands := entry.operands.place operandsAt
    let m := m.patch (tableBase.toNat + 32 * entry.byte.toNat) (entry.encode mnemonic operands)
    let m := m.patch next.toNat (entry.mnemonic.bytes ++ entry.operands.bytes)
    placeEntries rest (operandsAt + UInt32.ofNat entry.operands.bytes.length) m

/-- Run the code of the start section, if there is one. -/
def runStartSection (script : Script) : Code Unit := do
  match script.initialisers.lookup .startSection with
  | some what => let _ ← initialise script .startSection what
  | none => pure ()

/-- A fresh store under a limit on pages. -/
def start (script : Script) (limit : Nat) (surroundings : Surroundings) :
    Except (StartFailure × Surroundings) (Store Globals) :=
  if .global ∈ script.imports ∨ .table ∈ script.imports then
    .error (.unresolvedImport importName, surroundings)
  else if script.pages = 0 then .error (.trapped .outOfBounds, surroundings)
  else
    let fresh : Store Globals := {
      memory := placeEntries script.table textBase (Memory.ofPages script.pages)
      pageLimit := min limit (script.maxPages.getD Memory.maxPages)
      globals := {}
      surroundings }
    match runStartSection script fresh with
    | (.ok (), s) => .ok s
    | (.error t, s) => .error (.trapped t, s.surroundings)

/-- The decoder that follows a script. -/
def guest (script : Script) : Guest Globals where
  exports := exports script
  initialPages := script.pages
  start := start script
  invoke := invoke script

end Scripted

end DecoderHost

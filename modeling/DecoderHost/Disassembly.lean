import DecoderHost.Text.Quoted

/-!
Decoded instructions, and the outcome of decoding one byte string.
-/

namespace DecoderHost

/-- A decoded instruction: where it starts in the input, its mnemonic and its operands. -/
structure Instruction where
  offset : UInt64
  mnemonic : String
  operands : String
  deriving DecidableEq, Repr

namespace Instruction

/-- The instruction as a line of assembly: an empty operand text leaves no trailing space. -/
def line (i : Instruction) : String :=
  if i.operands.isEmpty then i.mnemonic else i.mnemonic ++ " " ++ i.operands

/-- The instruction by its parts, the texts quoted. -/
def debug (i : Instruction) : String :=
  "Instruction \x7b offset: " ++ toString i.offset ++ ", mnemonic: " ++ Text.quoted i.mnemonic ++
    ", operands: " ++ Text.quoted i.operands ++ " \x7d"

end Instruction

/-- The instructions of an input in order, and the number of trailing bytes left undecoded. -/
structure Disassembly where
  instructions : List Instruction
  remaining : Nat
  deriving DecidableEq, Repr

namespace Disassembly

/-- Nothing decoded and nothing left. -/
def empty : Disassembly := ⟨[], 0⟩

/-- Was the whole input decoded? -/
def isComplete (d : Disassembly) : Bool := d.remaining == 0

/-- The lines of assembly. -/
def lines (d : Disassembly) : List String := d.instructions.map Instruction.line

end Disassembly

end DecoderHost

import DecoderHost.Flags

/-!
The options of a disassembler engine: which option is set, and the value it is set to, a field of 16
bits with names.
-/

namespace DecoderHost

/-- The options that an engine knows. -/
inductive EngineOption where
  | invalid | syntaxFlavour | detail | mode | memory | skipData | skipDataSetup | mnemonic | unsigned
  | noBranchOffset
  deriving DecidableEq, Repr

namespace EngineOption

/-- All options in the order of their numbers. -/
def all : List EngineOption :=
  [invalid, syntaxFlavour, detail, mode, memory, skipData, skipDataSetup, mnemonic, unsigned,
    noBranchOffset]

/-- The number of an option. -/
def number : EngineOption → Nat
  | invalid => 0
  | syntaxFlavour => 1
  | detail => 2
  | mode => 3
  | memory => 4
  | skipData => 5
  | skipDataSetup => 6
  | mnemonic => 7
  | unsigned => 8
  | noBranchOffset => 9

/-- The name of an option. -/
def name : EngineOption → String
  | invalid => "Invalid"
  | syntaxFlavour => "Syntax"
  | detail => "Detail"
  | mode => "Mode"
  | memory => "Mem"
  | skipData => "SkipData"
  | skipDataSetup => "SkipDataSetup"
  | mnemonic => "Mnemonic"
  | unsigned => "Unsigned"
  | noBranchOffset => "NoBranchOffset"

end EngineOption

/-- The value of an engine option. -/
structure OptionValue where
  bits : BitVec 16
  deriving DecidableEq, Repr

namespace OptionValue

/-- The names of value bits in the order of their declaration. -/
def flags : List (Flag 16) := [
    ⟨"OFF", 0⟩,
    ⟨"ON", 1⟩,
    ⟨"SYNTAX_DEFAULT", 2⟩,
    ⟨"SYNTAX_INTEL", 4⟩,
    ⟨"SYNTAX_ATT", 8⟩,
    ⟨"SYNTAX_NOREGNAME", 0x10⟩,
    ⟨"SYNTAX_MASM", 0x20⟩,
    ⟨"SYNTAX_MOTOROLA", 0x40⟩,
    ⟨"SYNTAX_CS_REG_ALIAS", 0x80⟩,
    ⟨"SYNTAX_PERCENT", 0x100⟩,
    ⟨"DETAIL_REAL", 2⟩]

/-- The AT&T flavour of assembly syntax. -/
def attSyntax : OptionValue := ⟨0x8⟩

/-- The value by the names of its bits. -/
def debug (v : OptionValue) : String := "OptValue(" ++ Flag.describe flags v.bits ++ ")"

end OptionValue

end DecoderHost

/-!
The machine architectures a decoder may be asked for, with their numbers and names.
-/

namespace DecoderHost

/-- A machine architecture. -/
inductive Arch where
  | arm | aarch64 | mips | x86 | ppc | sparc | sysz | xcore | m68k | tms320c64x
  | m680x | evm | mos65xx | wasm | bpf | riscv | sh | tricore | alpha
  deriving DecidableEq, Repr

namespace Arch

/-- All architectures in the order of their numbers. -/
def all : List Arch :=
  [arm, aarch64, mips, x86, ppc, sparc, sysz, xcore, m68k, tms320c64x,
    m680x, evm, mos65xx, wasm, bpf, riscv, sh, tricore, alpha]

/-- The number of an architecture. -/
def number : Arch → Nat
  | arm => 0
  | aarch64 => 1
  | mips => 2
  | x86 => 3
  | ppc => 4
  | sparc => 5
  | sysz => 6
  | xcore => 7
  | m68k => 8
  | tms320c64x => 9
  | m680x => 10
  | evm => 11
  | mos65xx => 12
  | wasm => 13
  | bpf => 14
  | riscv => 15
  | sh => 16
  | tricore => 17
  | alpha => 18

/-- The architecture with a number. -/
def ofNumber? (n : Nat) : Option Arch := all[n]?

/-- The name of an architecture in messages. -/
def name : Arch → String
  | arm => "arm"
  | aarch64 => "aarch64"
  | mips => "mips"
  | x86 => "x86"
  | ppc => "ppc"
  | sparc => "sparc"
  | sysz => "sysz"
  | xcore => "xcore"
  | m68k => "m68k"
  | tms320c64x => "tms320c64x"
  | m680x => "m680x"
  | evm => "evm"
  | mos65xx => "mos65xx"
  | wasm => "wasm"
  | bpf => "bpf"
  | riscv => "riscv"
  | sh => "sh"
  | tricore => "tricore"
  | alpha => "alpha"

/-- The name of an architecture as a symbol. -/
def symbol : Arch → String
  | arm => "Arm"
  | aarch64 => "AArch64"
  | mips => "Mips"
  | x86 => "X86"
  | ppc => "Ppc"
  | sparc => "Sparc"
  | sysz => "SysZ"
  | xcore => "XCore"
  | m68k => "M68k"
  | tms320c64x => "Tms320c64x"
  | m680x => "M680x"
  | evm => "Evm"
  | mos65xx => "Mos65xx"
  | wasm => "Wasm"
  | bpf => "Bpf"
  | riscv => "RiscV"
  | sh => "Sh"
  | tricore => "TriCore"
  | alpha => "Alpha"

end Arch

end DecoderHost

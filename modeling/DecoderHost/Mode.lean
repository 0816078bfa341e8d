import DecoderHost.Flags

/-!
Decoding modes: a field of 32 bits whose meaning depends on the architecture, so that one bit carries a
name for each architecture that uses it.
-/

namespace DecoderHost

/-- A decoding mode. -/
structure Mode where
  bits : BitVec 32
  deriving DecidableEq, Repr

namespace Mode

/-- The names of mode bits in the order of their declaration. -/
def flags : List (Flag 32) := [
    ⟨"LITTLE_ENDIAN", 0⟩,
    ⟨"ARM", 0⟩,
    ⟨"MODE_16", 2⟩,
    ⟨"MODE_32", 4⟩,
    ⟨"MODE_64", 8⟩,
    ⟨"THUMB", 0x10⟩,
    ⟨"MCLASS", 0x20⟩,
    ⟨"V8", 0x40⟩,
    ⟨"MICRO", 0x10⟩,
    ⟨"MIPS3", 0x20⟩,
    ⟨"MIPS32R6", 0x40⟩,
    ⟨"MIPS2", 0x80⟩,
    ⟨"MIPS32", 4⟩,
    ⟨"MIPS64", 8⟩,
    ⟨"V9", 0x10⟩,
    ⟨"QPX", 0x10⟩,
    ⟨"SPE", 0x20⟩,
    ⟨"BOOKE", 0x40⟩,
    ⟨"PS", 0x80⟩,
    ⟨"M68K_000", 2⟩,
    ⟨"M68K_010", 4⟩,
    ⟨"M68K_020", 8⟩,
    ⟨"M68K_030", 0x10⟩,
    ⟨"M68K_040", 0x20⟩,
    ⟨"M68K_060", 0x40⟩,
    ⟨"BIG_ENDIAN", 0x80000000⟩,
    ⟨"M680X_6301", 2⟩,
    ⟨"M680X_6309", 4⟩,
    ⟨"M680X_6800", 8⟩,
    ⟨"M680X_6801", 0x10⟩,
    ⟨"M680X_6805", 0x20⟩,
    ⟨"M680X_6808", 0x40⟩,
    ⟨"M680X_6809", 0x80⟩,
    ⟨"M680X_6811", 0x100⟩,
    ⟨"M680X_CPU12", 0x200⟩,
    ⟨"M680X_HCS08", 0x400⟩,
    ⟨"BPF_CLASSIC", 0⟩,
    ⟨"BPF_EXTENDED", 1⟩,
    ⟨"RISCV32", 1⟩,
    ⟨"RISCV64", 2⟩,
    ⟨"RISCVC", 4⟩,
    ⟨"MOS65XX_6502", 2⟩,
    ⟨"MOS65XX_65C02", 4⟩,
    ⟨"MOS65XX_W65C02", 8⟩,
    ⟨"MOS65XX_65816", 0x10⟩,
    ⟨"MOS65XX_65816_LONG_M", 0x20⟩,
    ⟨"MOS65XX_65816_LONG_X", 0x40⟩,
    ⟨"MOS65XX_65816_LONG_MX", 0x60⟩,
    ⟨"SH2", 2⟩,
    ⟨"SH2A", 4⟩,
    ⟨"SH3", 8⟩,
    ⟨"SH4", 0x10⟩,
    ⟨"SH4A", 0x20⟩,
    ⟨"SHFPU", 0x40⟩,
    ⟨"SHDSP", 0x80⟩,
    ⟨"TRICORE_110", 2⟩,
    ⟨"TRICORE_120", 4⟩,
    ⟨"TRICORE_130", 8⟩,
    ⟨"TRICORE_131", 0x10⟩,
    ⟨"TRICORE_160", 0x20⟩,
    ⟨"TRICORE_161", 0x40⟩,
    ⟨"TRICORE_162", 0x80⟩]

/-- The mode with no bit set: little-endian, plain. -/
def plain : Mode := ⟨0⟩

/-- The 64-bit mode. -/
def mode64 : Mode := ⟨0x8⟩

/-- The mode as a hexadecimal number, as messages show it. -/
def display (m : Mode) : String := Text.hexAddress m.bits.toNat

/-- The mode by the names of its bits. -/
def debug (m : Mode) : String := "Mode(" ++ Flag.describe flags m.bits ++ ")"

end Mode

end DecoderHost

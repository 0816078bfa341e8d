/-!
Status codes of a disassembler engine. Zero is success; a code that has no meaning of its own is kept as
a number.
-/

namespace DecoderHost

/-- The status that an engine call reports. -/
inductive Status where
  | ok | outOfMemory | arch | handle | enginePointer | mode | option | detail
  | memorySetup | version | diet | skipData | attSyntax | intelSyntax | masmSyntax
  | unknown (code : UInt32)
  deriving DecidableEq, Repr

namespace Status

/-- The meaning of a code. -/
def ofCode (code : UInt32) : Status :=
  match code.toNat with
  | 0 => ok
  | 1 => outOfMemory
  | 2 => arch
  | 3 => handle
  | 4 => enginePointer
  | 5 => mode
  | 6 => option
  | 7 => detail
  | 8 => memorySetup
  | 9 => version
  | 10 => diet
  | 11 => skipData
  | 12 => attSyntax
  | 13 => intelSyntax
  | 14 => masmSyntax
  | _ => unknown code

/-- The code of a status. -/
def code : Status → UInt32
  | ok => 0
  | outOfMemory => 1
  | arch => 2
  | handle => 3
  | enginePointer => 4
  | mode => 5
  | option => 6
  | detail => 7
  | memorySetup => 8
  | version => 9
  | diet => 10
  | skipData => 11
  | attSyntax => 12
  | intelSyntax => 13
  | masmSyntax => 14
  | unknown code => code

theorem code_ofCode (code : UInt32) : (ofCode code).code = code := by
  unfold ofCode
  split <;> first | rfl | exact UInt32.toNat_inj.mp (by assumption : code.toNat = _).symm

/-- Only zero is success. -/
theorem ofCode_eq_ok_iff {code : UInt32} : ofCode code = ok ↔ code = 0 := by
  constructor
  · intro h
    rw [← code_ofCode code, h]
    rfl
  · rintro rfl
    rfl

/-- The wording of a status. -/
def message : Status → String
  | ok => "OK (CS_ERR_OK)"
  | outOfMemory => "Out of memory (CS_ERR_MEM)"
  | arch => "Invalid/unsupported architecture (CS_ERR_ARCH)"
  | handle => "Invalid handle (CS_ERR_HANDLE)"
  | enginePointer => "Invalid csh (CS_ERR_CSH)"
  | mode => "Invalid mode (CS_ERR_MODE)"
  | option => "Invalid option (CS_ERR_OPTION)"
  | detail => "Details are unavailable (CS_ERR_DETAIL)"
  | memorySetup => "Dynamic memory management uninitialized (CS_ERR_MEMSETUP)"
  | version => "Different API version between core & binding (CS_ERR_VERSION)"
  | diet => "Information irrelevant in diet engine (CS_ERR_DIET)"
  | skipData => "Information irrelevant for 'data' instruction in SKIPDATA mode (CS_ERR_SKIPDATA)"
  | attSyntax => "AT&T syntax is unavailable (CS_ERR_X86_ATT)"
  | intelSyntax => "INTEL syntax is unavailable (CS_ERR_X86_INTEL)"
  | masmSyntax => "MASM syntax is unavailable (CS_ERR_X86_MASM)"
  | unknown code => s!"Unknown error code ({code})"

/-- The name of a status as a symbol. -/
def symbol : Status → String
  | ok => "Ok"
  | outOfMemory => "Mem"
  | arch => "Arch"
  | handle => "Handle"
  | enginePointer => "Csh"
  | mode => "Mode"
  | option => "Option"
  | detail => "Detail"
  | memorySetup => "MemSetup"
  | version => "Version"
  | diet => "Diet"
  | skipData => "SkipData"
  | attSyntax => "X86Att"
  | intelSyntax => "X86Intel"
  | masmSyntax => "X86Masm"
  | unknown code => s!"Unknown({code})"

end Status

end DecoderHost

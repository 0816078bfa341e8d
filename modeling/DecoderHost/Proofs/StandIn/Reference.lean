import DecoderHost.Disassembly

/-!
# The toy encoding

What byte strings mean in the encoding that the stand-in decodes, without memory, guest or host: from the
front on, one instruction after another, until one cannot be read.
-/

namespace DecoderHost.StandIn

/-- The two readings of the encoding. -/
inductive Dialect where
  | x86 | arm
  deriving DecidableEq, Repr

/-- What stands at the front of a byte string. -/
inductive Front where
  | instruction (length : Nat) (mnemonic operands : String)
  | nothing
  | trap
  deriving DecidableEq, Repr

/-- The front of a byte string on x86, where `syscall` takes whatever byte comes second. -/
def frontX86 : List UInt8 → Front
  | [] => .nothing
  | byte :: rest =>
    if byte = 0x90 then .instruction 1 "nop" ""
    else if byte = 0xC3 then .instruction 1 "ret" ""
    else if byte = 0x01 then .instruction 1 "add" "%eax, %ecx"
    else if byte = 0x0F then if rest = [] then .nothing else .instruction 2 "syscall" ""
    else if byte = 0xCC then .trap
    else .nothing

/-- The front of a byte string on Arm and AArch64. -/
def frontArm : List UInt8 → Front
  | [] => .nothing
  | byte :: _ =>
    if byte = 0x90 then .instruction 1 "hint" "#0x90"
    else if byte = 0xC3 then .instruction 1 "ret" ""
    else if byte = 0x01 then .instruction 1 "add" "w1, w1, w1"
    else .nothing

/-- The front of a byte string. -/
def front : Dialect → List UInt8 → Front
  | .x86 => frontX86
  | .arm => frontArm

/-- An instruction takes at least one byte, and only bytes that are there. -/
theorem length_front {dialect : Dialect} {code : List UInt8} {length : Nat} {mnemonic operands : String}
    (h : front dialect code = .instruction length mnemonic operands) :
    0 < length ∧ length ≤ code.length := by
  cases code with
  | nil => cases dialect <;> simp [front, frontX86, frontArm] at h
  | cons byte rest =>
    have hrest : rest ≠ [] → 2 ≤ (byte :: rest).length := by
      cases rest <;> simp
    cases dialect <;> simp only [front, frontX86, frontArm] at h <;> grind

/-- A disassembly with one more instruction in front. -/
def prepend (offset : Nat) (mnemonic operands : String) (d : Disassembly) : Disassembly :=
  { d with instructions := ⟨UInt64.ofNat offset, mnemonic, operands⟩ :: d.instructions }

/-- The disassembly of a byte string that starts at an offset; none where the decoder is to trap. -/
def reference (dialect : Dialect) (offset : Nat) (code : List UInt8) : Option Disassembly :=
  match _hfront : front dialect code with
  | .nothing => some ⟨[], code.length⟩
  | .trap => none
  | .instruction length mnemonic operands =>
    (reference dialect (offset + length) (code.drop length)).map (prepend offset mnemonic operands)
termination_by code.length
decreasing_by
  have := length_front _hfront
  simp only [List.length_drop]
  omega

/-- What is left undecoded is no more than what there was. -/
theorem remaining_le {dialect : Dialect} {offset : Nat} {code : List UInt8} {d : Disassembly}
    (h : reference dialect offset code = some d) : d.remaining ≤ code.length := by
  fun_induction reference dialect offset code generalizing d with
  | case1 offset code hf =>
    simp only [Option.some.injEq] at h
    subst h
    exact Nat.le_refl _
  | case2 => simp at h
  | case3 offset code length mnemonic operands hf ih =>
    obtain ⟨rest, hrest, rfl⟩ := Option.map_eq_some_iff.mp h
    have := ih hrest
    simp only [List.length_drop] at this
    simp only [prepend]
    omega

example : reference .x86 0 [0x01, 0x0F, 0x05, 0x0F] =
    some ⟨[⟨0, "add", "%eax, %ecx"⟩, ⟨1, "syscall", ""⟩], 1⟩ := by decide +kernel

end DecoderHost.StandIn

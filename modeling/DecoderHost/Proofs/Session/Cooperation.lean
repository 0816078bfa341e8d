import DecoderHost.Proofs.Guest.Outcome
import DecoderHost.Proofs.Session.Protocol

/-!
# Guests that cooperate in a decode

What a decode needs of its guest to come to an end. The guest gives it scratch memory, answers every call, and counts
down what is left of the input as it decodes. All this is asked of the guest only at the calls to which one decode
comes, so that it may behave in any way at others. The blocks need not even lie apart: the cursor is written after the
input.
-/

namespace DecoderHost

variable {σ : Type}

/-- The slots of a cursor block hold the number of bytes left and the offset reached. -/
structure Memory.HasSlots (m : Memory) (cursor left : UInt32) (offset : UInt64) : Prop where
  left : m.readWord32 (cursor + 4) = .ok left
  offset : m.readWord64 (cursor + 8) = .ok offset

/-- From one memory to another the slots stay what they are. -/
def Memory.KeepsSlots (cursor : UInt32) (m m' : Memory) : Prop :=
  ∀ left offset, m.HasSlots cursor left offset → m'.HasSlots cursor left offset

/-- From one memory to another a number of bytes is taken off what is left and added to the offset: at least one, and
no more than are left. -/
def Memory.MovesSlots (cursor : UInt32) (m m' : Memory) : Prop :=
  ∀ left offset, m.HasSlots cursor left offset →
    ∃ k : UInt32, 1 ≤ k ∧ k ≤ left ∧ m'.HasSlots cursor (left - k) (offset + k.toUInt64)

namespace Session

/-- The scratch memory that a decode is given: three addresses, none of them null, and the stores after each was
given. The blocks lie within the memory. -/
structure Setting (g : Guest σ) (handle : UInt32) (code : List UInt8) (s : Store σ) where
  record : UInt32
  cursor : UInt32
  input : UInt32
  afterRecord : Store σ
  afterCursor : Store σ
  afterInput : Store σ
  takeRecord : g.GivesWord "cs_malloc" [handle.toUInt64] s record afterRecord
  takeCursor : g.GivesWord "malloc" [16] afterRecord cursor afterCursor
  takeInput : g.GivesWord "malloc" [UInt64.ofNat code.length] afterCursor input afterInput
  record_ne : record ≠ 0
  cursor_ne : cursor ≠ 0
  input_ne : code ≠ [] → input ≠ 0
  cursor_inside : cursor.toNat + 16 ≤ afterInput.memory.size
  input_inside : input.toNat + code.length ≤ afterInput.memory.size

namespace Setting

variable {g : Guest σ} {handle : UInt32} {code : List UInt8} {s : Store σ} (x : Setting g handle code s)

/-- The store when the cursor has been seeded. -/
def seeded : Store σ :=
  { x.afterInput with
    memory := (seed x.afterInput.memory x.input code ⟨x.cursor, x.cursor + 4, x.cursor + 8⟩).2 }

/-- The guest attempts to decode an instruction. -/
def Attempts (t : Store σ) (number : UInt64) (u : Store σ) : Prop :=
  g.Gives "cs_disasm_iter" (attempt handle x.cursor x.record).2 t number u

/-- The guest tells where the two texts of an instruction are. -/
def Describes (t : Store σ) (mnemonic operands : UInt32) (u : Store σ) : Prop :=
  ∃ v, g.GivesWord "cs_get_mnemonic" [x.record.toUInt64] t mnemonic v ∧
    g.GivesWord "cs_get_op_str" [x.record.toUInt64] v operands u

/-- The stores in which this decode comes to an attempt. -/
inductive Reaches : Store σ → Prop
  | first : Reaches x.seeded
  | next {t u v : Store σ} {number : UInt64} {mnemonic operands : UInt32} (h : Reaches t)
    (hattempt : x.Attempts t number u) (hfound : number ≠ 0)
    (hdescribed : x.Describes u mnemonic operands v) : Reaches v

/-- **A guest that cooperates in a decode.** No call goes wrong, a decoded instruction moves the slots and a failed
attempt does not, and asking for the texts leaves the slots alone. -/
structure Cooperates : Prop where
  free : g.hasFunction "free" ∧ g.TakesIntegers "free" 1
  csFree : g.hasFunction "cs_free" ∧ g.TakesIntegers "cs_free" 2
  attempts : ∀ t, x.Reaches t → ∃ number u, x.Attempts t number u
  stays : ∀ t u, x.Reaches t → x.Attempts t 0 u → t.memory.KeepsSlots x.cursor u.memory
  moves : ∀ t number u, x.Reaches t → x.Attempts t number u → number ≠ 0 →
    t.memory.MovesSlots x.cursor u.memory
  describes : ∀ t number u, x.Reaches t → x.Attempts t number u → number ≠ 0 →
    ∃ mnemonic operands v, x.Describes u mnemonic operands v ∧ u.memory.KeepsSlots x.cursor v.memory ∧
      (∃ bytes, v.memory.HasText mnemonic.toNat bytes) ∧ ∃ bytes, v.memory.HasText operands.toNat bytes

end Setting

end Session

end DecoderHost

import DecoderHost.Proofs.Hex.Digits

/-!
# The grammar of opcodes

An opcode as it is written: perhaps `0x`, `0X` or both in this order, and then two digits for each byte, every digit
in the case one likes. Nothing else is read, and what is not written so is refused for the fault of what follows the
prefixes (`opcode_grammar`).

The prefixes come off one after the other, so that `0x0X` is one and `0X0x` is not. No digit is an `x`: what has lost
its prefixes does not lose another.
-/

namespace DecoderHost.Hex

open Text (Denotes lowerDigits upperDigits)

/-! ## Opcodes as they are written -/

/-- What may stand in front of the digits of an opcode. -/
inductive Front where
  | nothing
  | lower
  | upper
  | both
  deriving DecidableEq, Repr

/-- A prefix as text. -/
def Front.text : Front → List Char
  | nothing => []
  | lower => ['0', 'x']
  | upper => ['0', 'X']
  | both => ['0', 'x', '0', 'X']

/-- A prefix and digits spell the bytes of an opcode. -/
def SpellsOpcode (text : String) (bytes : List UInt8) : Prop :=
  ∃ (front : Front) (digits : List Char), text.toList = front.text ++ digits ∧ SpellsBytes digits bytes

/-- A text without what stands in front, if it does stand there. -/
def without (front text : List Char) : List Char := if front <+: text then text.drop front.length else text

/-- A text without one `0x` and then one `0X` in front. -/
def stripped (text : String) : List Char := without Front.upper.text (without Front.lower.text text.toList)

/-- The digit for a value in the one case or the other. -/
def digitChar (upper : Bool) (value : Nat) : Char :=
  (if upper then upperDigits else lowerDigits)[value]?.getD '0'

/-- Bytes in digits. For each place it may be chosen in which case the digit is that stands there. -/
def digitsOf (upper : Nat → Bool) : List UInt8 → List Char
  | [] => []
  | b :: bytes =>
    digitChar (upper 0) (b.toNat / 16) :: digitChar (upper 1) (b.toNat % 16) ::
      digitsOf (fun place => upper (place + 2)) bytes

/-! ## Bytes in digits -/

theorem denotes_digitChar (upper : Bool) {value : Nat} (h : value < 16) : Denotes (digitChar upper value) value := by
  have hlower : ∀ v < 16, lowerDigits[v]? = some (digitChar false v) := by decide
  have hupper : ∀ v < 16, upperDigits[v]? = some (digitChar true v) := by decide
  cases upper with
  | false => exact .inl (hlower value h)
  | true => exact .inr (hupper value h)

theorem spellsBytes_digitsOf (upper : Nat → Bool) (bytes : List UInt8) :
    SpellsBytes (digitsOf upper bytes) bytes := by
  induction bytes generalizing upper with
  | nil => exact .nil
  | cons b bytes ih =>
    have hb := b.toNat_lt
    exact .cons (denotes_digitChar _ (by omega)) (denotes_digitChar _ (by omega)) (by omega) (ih _)

/-! ## Prefixes -/

theorem without_append (front rest : List Char) : without front (front ++ rest) = rest := by
  rw [without, if_pos (List.prefix_append _ _), List.drop_left]

theorem without_of_absent {front text : List Char} (h : ¬ front <+: text) : without front text = text := if_neg h

/-- What comes off a text was in front of it. -/
theorem eq_append_without_or (front text : List Char) :
    text = front ++ without front text ∨ text = without front text := by
  by_cases h : front <+: text
  · obtain ⟨rest, rfl⟩ := h
    exact .inl (by rw [without_append])
  · exact .inr (without_of_absent h).symm

theorem withoutLowerPrefix_eq (text : List Char) : withoutLowerPrefix text = without Front.lower.text text := by
  unfold withoutLowerPrefix
  split
  · exact (without_append Front.lower.text _).symm
  · rename_i hother
    exact (without_of_absent fun ⟨rest, hrest⟩ => hother rest hrest.symm).symm

theorem withoutUpperPrefix_eq (text : List Char) : withoutUpperPrefix text = without Front.upper.text text := by
  unfold withoutUpperPrefix
  split
  · exact (without_append Front.upper.text _).symm
  · rename_i hother
    exact (without_of_absent fun ⟨rest, hrest⟩ => hother rest hrest.symm).symm

theorem opcode_eq (text : String) : opcode text = decode (Text.Utf8.encode (stripped text)) := by
  rw [opcode, opcodeDigits, String.toList_ofList, withoutLowerPrefix_eq, withoutUpperPrefix_eq, stripped]

/-- A text is what is left of it behind one of the prefixes. -/
theorem exists_front (text : String) : ∃ front : Front, text.toList = front.text ++ stripped text := by
  rcases eq_append_without_or Front.lower.text text.toList with hlower | hlower
  · rcases eq_append_without_or Front.upper.text (without Front.lower.text text.toList) with hupper | hupper
    · exact ⟨.both, hlower.trans (congrArg (Front.lower.text ++ ·) hupper)⟩
    · exact ⟨.lower, hlower.trans (congrArg (Front.lower.text ++ ·) hupper)⟩
  · rcases eq_append_without_or Front.upper.text (without Front.lower.text text.toList) with hupper | hupper
    · exact ⟨.upper, hlower.trans hupper⟩
    · exact ⟨.nothing, hlower.trans hupper⟩

/-- Digits have no prefix: the second character of each is no digit. -/
theorem without_digits {mark : Char} (hmark : digit? (UInt8.ofNat mark.toNat) = none) {digits : List Char}
    (h : AllDigits digits) : without ['0', mark] digits = digits := by
  refine without_of_absent fun hstart => ?_
  obtain ⟨value, hdenotes⟩ := h mark (hstart.subset (by simp))
  exact absurd (hmark.symm.trans hdenotes.spec.2.2.2) (by simp)

theorem stripped_of_spells {text : String} {front : Front} {digits : List Char} {bytes : List UInt8}
    (htext : text.toList = front.text ++ digits) (hdigits : SpellsBytes digits bytes) : stripped text = digits := by
  have hlower : without Front.lower.text digits = digits := without_digits (by decide) hdigits.allDigits
  have hupper : without Front.upper.text digits = digits := without_digits (by decide) hdigits.allDigits
  rw [stripped, htext]
  cases front with
  | nothing => rw [Front.text, List.nil_append, hlower, hupper]
  | lower => rw [without_append, hupper]
  | upper =>
    have hother : ¬ Front.lower.text <+: Front.upper.text ++ digits := by simp [Front.text]
    rw [without_of_absent hother, without_append]
  | both =>
    have hboth : Front.both.text ++ digits = Front.lower.text ++ (Front.upper.text ++ digits) := rfl
    rw [hboth, without_append, without_append]

/-! ## Reading opcodes -/

theorem opcode_eq_ok_iff {text : String} {bytes : List UInt8} :
    opcode text = .ok bytes ↔ SpellsOpcode text bytes := by
  rw [opcode_eq, decode_encode_eq_ok_iff]
  constructor
  · intro hspells
    obtain ⟨front, htext⟩ := exists_front text
    exact ⟨front, stripped text, htext, hspells⟩
  · rintro ⟨front, digits, htext, hspells⟩
    rwa [stripped_of_spells htext hspells]

theorem opcode_eq_error_iff {text : String} {e : HexError} :
    opcode text = .error e ↔ Fault (Text.Utf8.encode (stripped text)) e := by
  rw [opcode_eq, decode_encode_eq_error_iff]

/-- **Opcodes are read by their grammar.** What is written by it comes to the bytes that it spells, every other text
is refused for the fault of what follows its prefixes, and bytes are read back from their digits in any case. -/
theorem opcode_grammar :
    (∀ text bytes, opcode text = .ok bytes ↔ SpellsOpcode text bytes) ∧
    (∀ text e, opcode text = .error e ↔
      (¬ ∃ bytes, SpellsOpcode text bytes) ∧ Fault (Text.Utf8.encode (stripped text)) e) ∧
    ∀ (front : Front) (upper : Nat → Bool) (bytes : List UInt8),
      opcode (String.ofList (front.text ++ digitsOf upper bytes)) = .ok bytes := by
  refine ⟨fun _ _ => opcode_eq_ok_iff, fun text e => ?_, fun front upper bytes => ?_⟩
  · rw [← opcode_eq_error_iff]
    refine ⟨fun h => ⟨?_, h⟩, And.right⟩
    rintro ⟨bytes, hspells⟩
    exact absurd (h.symm.trans (opcode_eq_ok_iff.mpr hspells)) (by simp)
  · exact opcode_eq_ok_iff.mpr ⟨front, _, String.toList_ofList, spellsBytes_digitsOf upper bytes⟩

/-- The other order of the prefixes is none: after `0X` the `x` stands where a digit should. -/
example : opcode "0X0x41" = .error (.invalidCharacter 120 1) := by decide

end DecoderHost.Hex

import DecoderHost.Hex
import DecoderHost.Proofs.Text.Written
import DecoderHost.Proofs.Text.Utf8
import DecoderHost.Text.Blank
import Mathlib.Data.List.Induction

/-!
# Digits that spell bytes

What hexadecimal digits come to, told by how they are written: two for each byte, the high one first. A byte
string that is not written so has a fault, which is either its length or its first byte that is no digit. Every
text either spells bytes or has a fault, and reading it tells which: `decode_encode_eq_ok_iff` and
`decode_encode_eq_error_iff`.
-/

namespace DecoderHost

/-! ## Digits -/

/-- A digit is a character of one byte, no blank, and has its value. -/
theorem Text.Denotes.spec {c : Char} {value : Nat} (h : Denotes c value) :
    c.toNat < 0x80 ∧ Text.isBlank c = false ∧ c ∉ [',', '\x7d', '\n'] ∧
      Hex.digit? (UInt8.ofNat c.toNat) = some value := by
  have table : ∀ entry ∈ digitTable, entry.1.toNat < 0x80 ∧ Text.isBlank entry.1 = false ∧
      entry.1 ∉ [',', '\x7d', '\n'] ∧ Hex.digit? (UInt8.ofNat entry.1.toNat) = some entry.2 := by
    decide
  exact table (c, value) h.mem_digitTable

namespace Hex

open Text (Denotes lowerDigits upperDigits)

/-! ## Pairs of digits -/

/-- The two digits that a byte comes to. -/
inductive Pair : List UInt8 → UInt8 → Prop
  | mk {high low byte : UInt8} {h l : Nat} (hhigh : Hex.digit? high = some h) (hlow : Hex.digit? low = some l)
    (hbyte : byte.toNat = 16 * h + l) : Pair [high, low] byte

/-- Pairs of digits are read one after the other. -/
theorem decodePairs_of_pairs {pairs : List (List UInt8)} {bytes : List UInt8}
    (h : List.Forall₂ Pair pairs bytes) (index : Nat) (decoded : List UInt8) :
    Hex.decodePairs index decoded pairs.flatten = .ok (decoded.reverse ++ bytes) := by
  induction h generalizing index decoded with
  | nil => simp [Hex.decodePairs]
  | cons hpair _ ih =>
    obtain ⟨hhigh, hlow, hbyte⟩ := hpair
    simp only [List.flatten_cons, List.cons_append, List.nil_append, Hex.decodePairs, hhigh, hlow, ih]
    rw [← hbyte, UInt8.ofNat_toNat, List.reverse_cons, List.append_assoc]
    rfl

theorem length_flatten_of_pairs {pairs : List (List UInt8)} {bytes : List UInt8}
    (h : List.Forall₂ Pair pairs bytes) : pairs.flatten.length = 2 * bytes.length := by
  induction h with
  | nil => rfl
  | cons hpair _ ih =>
    obtain ⟨-, -, -⟩ := hpair
    simp only [List.flatten_cons, List.length_append, List.length_cons, List.length_nil, ih]
    omega

theorem decode_of_pairs {pairs : List (List UInt8)} {bytes : List UInt8}
    (h : List.Forall₂ Pair pairs bytes) : Hex.decode pairs.flatten = .ok bytes := by
  rw [Hex.decode, length_flatten_of_pairs h, if_neg (by omega), decodePairs_of_pairs h]
  rfl

/-! ## What is written -/

/-- Digits spell bytes: two for each byte, the high one first. -/
inductive SpellsBytes : List Char → List UInt8 → Prop
  | nil : SpellsBytes [] []
  | cons {high low : Char} {h l : Nat} {byte : UInt8} {digits : List Char} {bytes : List UInt8}
    (hhigh : Denotes high h) (hlow : Denotes low l) (hbyte : byte.toNat = 16 * h + l)
    (hrest : SpellsBytes digits bytes) : SpellsBytes (high :: low :: digits) (byte :: bytes)

/-- Nothing but digits. -/
def AllDigits (text : List Char) : Prop := ∀ c ∈ text, ∃ value, Denotes c value

/-- A byte that is a digit by itself. -/
def IsDigit (b : UInt8) : Prop := ∃ c value, Denotes c value ∧ c.toNat = b.toNat

/-- What keeps a byte string from spelling bytes: its length, or else its first byte that is no digit. -/
inductive Fault : List UInt8 → HexError → Prop
  | oddLength {digits : List UInt8} (hodd : digits.length % 2 = 1) : Fault digits .oddLength
  | invalidCharacter {front rest : List UInt8} {b : UInt8} (heven : (front ++ b :: rest).length % 2 = 0)
    (hfront : ∀ d ∈ front, IsDigit d) (hb : ¬ IsDigit b) :
    Fault (front ++ b :: rest) (.invalidCharacter b front.length)

/-! ## Digits as bytes -/

theorem denotes_of_digit? {b : UInt8} {value : Nat} (h : digit? b = some value) :
    Denotes (Char.ofNat b.toNat) value := by
  have hdecimal : ∀ v < 10, lowerDigits[v]? = some (Char.ofNat (v + 48)) := by decide
  have hlower : ∀ v < 6, lowerDigits[v + 10]? = some (Char.ofNat (v + 97)) := by decide
  have hupper : ∀ v < 6, upperDigits[v + 10]? = some (Char.ofNat (v + 65)) := by decide
  unfold digit? at h
  dsimp only at h
  split_ifs at h with hrange hrange hrange
  · obtain ⟨v, hv⟩ := Nat.exists_eq_add_of_le' hrange.1
    obtain rfl : v = value := by injection h; omega
    rw [hv]
    exact .inl (hdecimal v (by omega))
  · obtain ⟨v, hv⟩ := Nat.exists_eq_add_of_le' hrange.1
    obtain rfl : v + 10 = value := by injection h; omega
    rw [hv]
    exact .inl (hlower v (by omega))
  · obtain ⟨v, hv⟩ := Nat.exists_eq_add_of_le' hrange.1
    obtain rfl : v + 10 = value := by injection h; omega
    rw [hv]
    exact .inr (hupper v (by omega))

theorem isDigit_iff {b : UInt8} : IsDigit b ↔ ∃ value, digit? b = some value := by
  constructor
  · rintro ⟨c, value, hdenotes, hbyte⟩
    refine ⟨value, ?_⟩
    rw [← UInt8.ofNat_toNat (x := b), ← hbyte]
    exact hdenotes.spec.2.2.2
  · rintro ⟨value, hvalue⟩
    refine ⟨_, value, denotes_of_digit? hvalue, ?_⟩
    have hbound := b.toNat_lt
    exact Text.Utf8.toNat_ofNat_of_valid (by omega)

theorem digit?_eq_none_iff {b : UInt8} : digit? b = none ↔ ¬ IsDigit b := by
  rw [isDigit_iff, ← Option.isSome_iff_exists, Bool.not_eq_true, Option.isSome_eq_false_iff,
    Option.isNone_iff_eq_none]

/-- A text whose bytes are digits is made of digits. -/
theorem allDigits_of_encode {text : List Char} (h : ∀ b ∈ Text.Utf8.encode text, IsDigit b) : AllDigits text := by
  intro c hc
  obtain ⟨b, tail, hencoded, -⟩ := Text.Utf8.next_encoded c []
  have hb : b ∈ String.utf8EncodeChar c := hencoded ▸ List.mem_cons_self
  obtain ⟨d, value, hdenotes, hbyte⟩ := h b (List.mem_flatMap.mpr ⟨c, hc, hb⟩)
  have hsmall : b.toNat < 0x80 := hbyte ▸ hdenotes.spec.1
  have hcd : c = d := Char.toNat_inj.mp ((Text.Utf8.toNat_eq_of_mem hb hsmall).trans hbyte.symm)
  exact ⟨value, hcd ▸ hdenotes⟩

/-- The encoding of digits has a byte for each. -/
theorem AllDigits.length_encode {text : List Char} (h : AllDigits text) :
    (Text.Utf8.encode text).length = text.length := by
  induction text with
  | nil => rfl
  | cons c text ih =>
    obtain ⟨⟨value, hdenotes⟩, htext⟩ := List.forall_mem_cons.mp h
    rw [Text.Utf8.encode_cons, Text.Utf8.utf8EncodeChar_of_lt hdenotes.spec.1, List.length_append, ih htext,
      List.length_singleton, List.length_cons, Nat.add_comm]

/-! ## Digits that spell bytes -/

theorem SpellsBytes.length_eq {digits : List Char} {bytes : List UInt8} (h : SpellsBytes digits bytes) :
    digits.length = 2 * bytes.length := by
  induction h with
  | nil => rfl
  | cons _ _ _ _ ih =>
    simp only [List.length_cons, ih]
    omega

theorem SpellsBytes.allDigits {digits : List Char} {bytes : List UInt8} (h : SpellsBytes digits bytes) :
    AllDigits digits := by
  induction h with
  | nil => exact List.forall_mem_nil _
  | cons hhigh hlow _ _ ih =>
    have hrest := List.forall_mem_cons.mpr ⟨⟨_, hlow⟩, ih⟩
    exact List.forall_mem_cons.mpr ⟨⟨_, hhigh⟩, hrest⟩

/-- An even number of digits spells bytes. -/
theorem exists_spellsBytes {digits : List Char} (hdigits : AllDigits digits) (heven : digits.length % 2 = 0) :
    ∃ bytes, SpellsBytes digits bytes := by
  induction digits using List.twoStepInduction with
  | nil => exact ⟨[], .nil⟩
  | singleton c => simp at heven
  | cons_cons high low digits ih _ =>
    obtain ⟨⟨h, hhigh⟩, hrest⟩ := List.forall_mem_cons.mp hdigits
    obtain ⟨⟨l, hlow⟩, hrest⟩ := List.forall_mem_cons.mp hrest
    obtain ⟨bytes, hbytes⟩ := ih hrest (by simp only [List.length_cons] at heven; omega)
    have hbyte : (UInt8.ofNat (16 * h + l)).toNat = 16 * h + l := by
      have := hhigh.lt
      have := hlow.lt
      exact Text.Utf8.toNat_ofNat_of_lt (by omega)
    exact ⟨_, .cons hhigh hlow hbyte hbytes⟩

theorem SpellsBytes.exists_pairs {digits : List Char} {bytes : List UInt8} (h : SpellsBytes digits bytes) :
    ∃ pairs, List.Forall₂ Pair pairs bytes ∧ Text.Utf8.encode digits = pairs.flatten := by
  induction h with
  | nil => exact ⟨[], .nil, rfl⟩
  | cons hhigh hlow hbyte _ ih =>
    obtain ⟨pairs, hpairs, hencode⟩ := ih
    refine ⟨_, .cons (.mk hhigh.spec.2.2.2 hlow.spec.2.2.2 hbyte) hpairs, ?_⟩
    rw [Text.Utf8.encode_cons, Text.Utf8.encode_cons, Text.Utf8.utf8EncodeChar_of_lt hhigh.spec.1,
      Text.Utf8.utf8EncodeChar_of_lt hlow.spec.1, hencode]
    rfl

theorem SpellsBytes.decode_eq {digits : List Char} {bytes : List UInt8} (h : SpellsBytes digits bytes) :
    decode (Text.Utf8.encode digits) = .ok bytes := by
  obtain ⟨pairs, hpairs, hencode⟩ := h.exists_pairs
  rw [hencode, decode_of_pairs hpairs]

/-! ## Faults -/

/-- Reading stops at the first byte that is no digit, whether it stands first or second in its pair. -/
theorem decodePairs_of_stray (index : Nat) (decoded : List UInt8) {front rest : List UInt8} {b : UInt8}
    (heven : (front ++ b :: rest).length % 2 = 0) (hfront : ∀ d ∈ front, IsDigit d) (hb : ¬ IsDigit b) :
    decodePairs index decoded (front ++ b :: rest) = .error (.invalidCharacter b (index + front.length)) := by
  have hnone := digit?_eq_none_iff.mpr hb
  induction front using List.twoStepInduction generalizing index decoded with
  | nil =>
    cases rest with
    | nil => simp at heven
    | cons low rest => simp [decodePairs, hnone]
  | singleton high =>
    obtain ⟨h, hhigh⟩ := isDigit_iff.mp (hfront high List.mem_cons_self)
    simp [decodePairs, hhigh, hnone]
  | cons_cons high low front ih _ =>
    obtain ⟨hdigit, hrest⟩ := List.forall_mem_cons.mp hfront
    obtain ⟨h, hhigh⟩ := isDigit_iff.mp hdigit
    obtain ⟨hdigit, hrest⟩ := List.forall_mem_cons.mp hrest
    obtain ⟨l, hlow⟩ := isDigit_iff.mp hdigit
    have heven' : (front ++ b :: rest).length % 2 = 0 := by
      simp only [List.cons_append, List.length_cons] at heven
      omega
    simp only [List.cons_append, decodePairs, hhigh, hlow, ih _ _ heven' hrest, List.length_cons]
    congr 2
    omega

theorem Fault.decode_eq {digits : List UInt8} {e : HexError} (h : Fault digits e) : decode digits = .error e := by
  cases h with
  | oddLength hodd => exact if_pos hodd
  | invalidCharacter heven hfront hb =>
    rw [decode, if_neg (by omega), decodePairs_of_stray 0 [] heven hfront hb, Nat.zero_add]

/-- Every text spells bytes or has a fault. -/
theorem spellsBytes_or_fault (text : List Char) :
    (∃ bytes, SpellsBytes text bytes) ∨ ∃ e, Fault (Text.Utf8.encode text) e := by
  rcases Nat.mod_two_eq_zero_or_one (Text.Utf8.encode text).length with heven | hodd
  · cases hfind : (Text.Utf8.encode text).find? fun b => (digit? b).isNone with
    | none =>
      have hdigits : ∀ b ∈ Text.Utf8.encode text, IsDigit b := by
        intro b hb
        have hnot := List.find?_eq_none.mp hfind b hb
        by_contra hstray
        exact hnot (by rw [digit?_eq_none_iff.mpr hstray]; rfl)
      have htext := allDigits_of_encode hdigits
      rw [htext.length_encode] at heven
      exact .inl (exists_spellsBytes htext heven)
    | some b =>
      obtain ⟨hb, front, rest, hencode, hfront⟩ := List.find?_eq_some_iff_append.mp hfind
      have hstray : ¬ IsDigit b := digit?_eq_none_iff.mp (Option.isNone_iff_eq_none.mp hb)
      have hdigits : ∀ d ∈ front, IsDigit d := by
        intro d hd
        by_contra hnone
        have hnot := hfront d hd
        rw [digit?_eq_none_iff.mpr hnone] at hnot
        exact absurd hnot (by decide)
      rw [hencode] at heven ⊢
      exact .inr ⟨_, .invalidCharacter heven hdigits hstray⟩
  · exact .inr ⟨_, .oddLength hodd⟩

/-- **A text is read to the bytes that it spells.** -/
theorem decode_encode_eq_ok_iff {text : List Char} {bytes : List UInt8} :
    decode (Text.Utf8.encode text) = .ok bytes ↔ SpellsBytes text bytes := by
  refine ⟨fun h => ?_, SpellsBytes.decode_eq⟩
  rcases spellsBytes_or_fault text with ⟨spelled, hspells⟩ | ⟨e, hfault⟩
  · obtain rfl : spelled = bytes := Except.ok.inj (hspells.decode_eq.symm.trans h)
    exact hspells
  · exact absurd (hfault.decode_eq.symm.trans h) (by simp)

/-- **A text that spells no bytes is refused for its fault.** -/
theorem decode_encode_eq_error_iff {text : List Char} {e : HexError} :
    decode (Text.Utf8.encode text) = .error e ↔ Fault (Text.Utf8.encode text) e := by
  refine ⟨fun h => ?_, Fault.decode_eq⟩
  rcases spellsBytes_or_fault text with ⟨bytes, hspells⟩ | ⟨found, hfault⟩
  · exact absurd (hspells.decode_eq.symm.trans h) (by simp)
  · obtain rfl : found = e := Except.error.inj (hfault.decode_eq.symm.trans h)
    exact hfault

end Hex

end DecoderHost

import DecoderHost.Proofs.Hex.Opcode
import DecoderHost.Proofs.Literal.RoundTrip

/-!
# Elements and bytes

The inside of a byte slice has a numeral between any two commas, unless there is nothing but blanks or a bare `0x`.
The digits of all numerals are joined before any is read. That comes to one byte for each numeral as long as no
numeral has more than two digits (`decodeBody_numerals`); longer ones run together with their neighbours, and where
the number of digits is even in the end nobody notices (`long_numerals_run_together`).
-/

namespace DecoderHost.Literal

open Hex (AllDigits Front SpellsBytes)
open Text (Denotes SpellsNumber)

/-! ## Numerals -/

/-- An element without the blanks around it and without one `0x` in front. -/
def numeral (element : List Char) : List Char := Hex.without Front.lower.text (Text.trim element)

/-- The numerals between the commas. -/
def numerals (body : List Char) : List (List Char) := ((body.splitOn ',').map numeral).filter (· ≠ [])

/-- A numeral read as a number is the value of a byte. -/
def ReadsAs (numeral : List Char) (byte : UInt8) : Prop := SpellsNumber numeral byte.toNat

/-- A numeral of one byte gets a zero in front. -/
def padded (numeral : List Char) : List Char :=
  if (Text.Utf8.encode numeral).length = 1 then '0' :: numeral else numeral

/-- The digits of all numerals, one after the other. -/
def joined (body : List Char) : List Char := (numerals body).flatMap padded

/-! ## Joining -/

theorem elementDigits_eq (element : List Char) :
    elementDigits element = Text.Utf8.encode (padded (numeral element)) := by
  rw [elementDigits, Hex.withoutLowerPrefix_eq, padded, numeral]
  split
  · rename_i digit hdigit
    rw [if_pos (by rw [hdigit, List.length_singleton]), Text.Utf8.encode_cons, hdigit]
    rfl
  · rename_i hother
    rw [if_neg fun hlength => ?_]
    obtain ⟨digit, hdigit⟩ := List.length_eq_one_iff.mp hlength
    exact hother digit hdigit

theorem flatMap_elementDigits (body : List Char) :
    (elements body).flatMap elementDigits = Text.Utf8.encode (joined body) := by
  have hempty : padded [] = [] := rfl
  rw [elements_eq, joined, numerals]
  induction body.splitOn ',' with
  | nil => rfl
  | cons element parts ih =>
    rw [List.flatMap_cons, ih, elementDigits_eq, List.map_cons]
    by_cases hnone : numeral element = []
    · rw [hnone, hempty, List.filter_cons_of_neg (by simp)]
      rfl
    · rw [List.filter_cons_of_pos (by simpa using hnone), List.flatMap_cons, Text.Utf8.encode_append]

theorem decodeBody_eq (body : List Char) : decodeBody body = Hex.decode (Text.Utf8.encode (joined body)) := by
  rw [decodeBody, flatMap_elementDigits]

theorem decodeBody_eq_ok_iff {body : List Char} {bytes : List UInt8} :
    decodeBody body = .ok bytes ↔ SpellsBytes (joined body) bytes := by
  rw [decodeBody_eq, Hex.decode_encode_eq_ok_iff]

/-! ## Short numerals -/

theorem eq_zero_of_denotes {value : Nat} (h : Denotes '0' value) : value = 0 :=
  Option.some.inj (h.spec.2.2.2.symm.trans Text.denotes_zero.spec.2.2.2)

theorem padded_one {c : Char} {value : Nat} (h : Denotes c value) : padded [c] = ['0', c] := by
  rw [padded, Text.Utf8.encode_cons, Text.Utf8.utf8EncodeChar_of_lt h.spec.1]
  rfl

theorem padded_of_length {numeral : List Char} (h : 1 < numeral.length) : padded numeral = numeral := by
  refine if_neg fun hone => ?_
  have hle := Text.Utf8.length_le_length_encode numeral
  omega

theorem subset_padded (numeral : List Char) : numeral ⊆ padded numeral := by
  unfold padded
  split
  · exact List.subset_cons_self _ _
  · exact List.Subset.refl _

/-- A short numeral comes to one byte, whatever follows it. -/
theorem spellsBytes_padded_append {numeral : List Char} (hsome : numeral ≠ []) (hshort : numeral.length ≤ 2)
    {rest : List Char} {bytes : List UInt8} :
    SpellsBytes (padded numeral ++ rest) bytes ↔
      ∃ byte more, bytes = byte :: more ∧ ReadsAs numeral byte ∧ SpellsBytes rest more := by
  match numeral, hsome, hshort with
  | [c], _, _ =>
    constructor
    · intro hspells
      have hmem : c ∈ padded [c] ++ rest := List.mem_append_left _ (subset_padded [c] List.mem_cons_self)
      obtain ⟨value, hc⟩ := hspells.allDigits c hmem
      rw [padded_one hc] at hspells
      cases hspells with
      | cons hzero hlow hbyte hrest =>
        obtain rfl := eq_zero_of_denotes hzero
        refine ⟨_, _, rfl, Text.spellsNumber_one.mpr ?_, hrest⟩
        rwa [hbyte, Nat.mul_zero, Nat.zero_add]
    · rintro ⟨byte, more, rfl, hreads, hrest⟩
      have hc := Text.spellsNumber_one.mp hreads
      rw [padded_one hc]
      exact .cons Text.denotes_zero hc (by omega) hrest
  | [high, low], _, _ =>
    rw [padded_of_length (by simp)]
    constructor
    · intro hspells
      cases hspells with
      | cons hhigh hlow hbyte hrest =>
        exact ⟨_, _, rfl, Text.spellsNumber_two.mpr ⟨_, _, hhigh, hlow, hbyte⟩, hrest⟩
    · rintro ⟨byte, more, rfl, hreads, hrest⟩
      obtain ⟨h, l, hhigh, hlow, hbyte⟩ := Text.spellsNumber_two.mp hreads
      exact .cons hhigh hlow hbyte hrest

/-- Short numerals come to one byte each. -/
theorem spellsBytes_flatMap_padded {written : List (List Char)} (hsome : ∀ numeral ∈ written, numeral ≠ [])
    (hshort : ∀ numeral ∈ written, numeral.length ≤ 2) {bytes : List UInt8} :
    SpellsBytes (written.flatMap padded) bytes ↔ List.Forall₂ ReadsAs written bytes := by
  induction written generalizing bytes with
  | nil =>
    rw [List.flatMap_nil, List.forall₂_nil_left_iff]
    constructor
    · intro hspells
      cases hspells
      rfl
    · rintro rfl
      exact .nil
  | cons numeral written ih =>
    obtain ⟨hhead, hsome⟩ := List.forall_mem_cons.mp hsome
    obtain ⟨hlength, hshort⟩ := List.forall_mem_cons.mp hshort
    rw [List.flatMap_cons, spellsBytes_padded_append hhead hlength, List.forall₂_cons_left_iff]
    constructor
    · rintro ⟨byte, more, rfl, hreads, hrest⟩
      exact ⟨byte, more, hreads, (ih hsome hshort).mp hrest, rfl⟩
    · rintro ⟨byte, more, hreads, hrest, rfl⟩
      exact ⟨byte, more, rfl, hreads, (ih hsome hshort).mpr hrest⟩

/-! ## Long numerals -/

theorem two_le_length_padded {numeral : List Char} (hsome : numeral ≠ [])
    (hdigits : AllDigits numeral) : 2 ≤ (padded numeral).length := by
  match numeral, hsome with
  | [c], _ =>
    obtain ⟨value, hc⟩ := hdigits c List.mem_cons_self
    rw [padded_one hc]
    simp
  | high :: low :: rest, _ =>
    rw [padded_of_length (by simp)]
    simp

theorem length_flatMap_padded (written : List (List Char)) (hsome : ∀ numeral ∈ written, numeral ≠ [])
    (hdigits : ∀ numeral ∈ written, AllDigits numeral) :
    2 * written.length ≤ (written.flatMap padded).length := by
  induction written with
  | nil => simp
  | cons numeral written ih =>
    obtain ⟨hhead, hsome⟩ := List.forall_mem_cons.mp hsome
    obtain ⟨hdigit, hdigits⟩ := List.forall_mem_cons.mp hdigits
    have hpadded := two_le_length_padded hhead hdigit
    have hrest := ih hsome hdigits
    rw [List.flatMap_cons, List.length_append, List.length_cons]
    omega

theorem mem_numerals_ne_nil {body numeral : List Char} (h : numeral ∈ numerals body) : numeral ≠ [] := by
  have hfilter := (List.mem_filter.mp h).2
  simpa using hfilter

/-- A numeral of more than two digits adds to the bytes. -/
theorem length_lt_of_long {body : List Char} {bytes : List UInt8} (h : SpellsBytes (joined body) bytes)
    {long : List Char} (hmem : long ∈ numerals body) (hlong : 2 < long.length) :
    (numerals body).length < bytes.length := by
  have hsome : ∀ numeral ∈ numerals body, numeral ≠ [] := fun _ => mem_numerals_ne_nil
  have hdigits : ∀ numeral ∈ numerals body, AllDigits numeral := by
    intro numeral hnumeral c hc
    exact h.allDigits c (List.mem_flatMap.mpr ⟨numeral, hnumeral, subset_padded numeral hc⟩)
  have hlength := h.length_eq
  obtain ⟨before, after, hsplit⟩ := List.append_of_mem hmem
  rw [joined, hsplit] at hlength
  rw [hsplit] at hsome hdigits ⊢
  have hbefore := length_flatMap_padded before (fun n hn => hsome n (by simp [hn]))
    (fun n hn => hdigits n (by simp [hn]))
  have hafter := length_flatMap_padded after (fun n hn => hsome n (by simp [hn]))
    (fun n hn => hdigits n (by simp [hn]))
  rw [List.flatMap_append, List.flatMap_cons, padded_of_length (by omega)] at hlength
  simp only [List.length_append, List.length_cons] at hlength ⊢
  omega

/-! ## One byte for each numeral -/

/-- **Numerals of at most two digits come to one byte each, and no others do.** What is read in any case is the bytes
that the digits of all numerals spell together. -/
theorem decodeBody_numerals (body : List Char) (bytes : List UInt8) :
    (decodeBody body = .ok bytes ↔ SpellsBytes (joined body) bytes) ∧
    ((∀ numeral ∈ numerals body, numeral.length ≤ 2) →
      (decodeBody body = .ok bytes ↔ List.Forall₂ ReadsAs (numerals body) bytes)) ∧
    ((∃ numeral ∈ numerals body, 2 < numeral.length) → decodeBody body = .ok bytes →
      (numerals body).length < bytes.length) := by
  refine ⟨decodeBody_eq_ok_iff, fun hshort => ?_, fun ⟨long, hmem, hlong⟩ h => ?_⟩
  · rw [decodeBody_eq_ok_iff, joined]
    exact spellsBytes_flatMap_padded (fun _ => mem_numerals_ne_nil) hshort
  · exact length_lt_of_long (decodeBody_eq_ok_iff.mp h) hmem hlong

/-- Of the short numerals the second has one digit; the element after it has no numeral. The long one is read as the
two bytes that its four digits spell. -/
theorem short_and_long_numerals :
    (∀ numeral ∈ numerals "0x41, f ,0x,\t0x9C".toList, numeral.length ≤ 2) ∧
    List.Forall₂ ReadsAs (numerals "0x41, f ,0x,\t0x9C".toList) [0x41, 0x0F, 0x9C] ∧
    (∃ numeral ∈ numerals "0x1234".toList, 2 < numeral.length) ∧
    (numerals "0x1234".toList).length < [(0x12 : UInt8), 0x34].length := by
  have hshort : ∀ numeral ∈ numerals "0x41, f ,0x,\t0x9C".toList, numeral.length ≤ 2 := by decide
  have hlong : ∃ numeral ∈ numerals "0x1234".toList, 2 < numeral.length := by decide
  exact ⟨hshort, ((decodeBody_numerals _ _).2.1 hshort).mp rfl, hlong, (decodeBody_numerals _ _).2.2 hlong rfl⟩

/-- Two numerals of three digits each come to three bytes, none of which is the value of either. -/
theorem long_numerals_run_together :
    numerals "0x123, 0x456".toList = ["123".toList, "456".toList] ∧
    decodeBody "0x123, 0x456".toList = .ok [0x12, 0x34, 0x56] ∧
    ¬ ∀ body bytes, decodeBody body = .ok bytes → List.Forall₂ ReadsAs (numerals body) bytes := by
  refine ⟨rfl, rfl, fun hclaim => ?_⟩
  have hlength := (hclaim "0x123, 0x456".toList [0x12, 0x34, 0x56] rfl).length_eq
  exact absurd hlength (by decide)

end DecoderHost.Literal

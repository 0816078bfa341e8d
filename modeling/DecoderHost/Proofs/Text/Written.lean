import DecoderHost.Text.Numeral
import Mathlib.Data.List.Forall2

/-!
# Digits, numbers and line ends as they are written

What opcodes, byte slices and documents have in common, told by how it is written: hexadecimal digits in one case or
the other, numbers that they spell, and the two ways in which a line may end.
-/

namespace DecoderHost.Text

/-! ## Digits -/

/-- The digits by their values, in lower case. -/
def lowerDigits : List Char := "0123456789abcdef".toList

/-- The digits by their values, in upper case. -/
def upperDigits : List Char := "0123456789ABCDEF".toList

/-- A character is the digit for a value, in one case or the other. -/
def Denotes (c : Char) (value : Nat) : Prop :=
  lowerDigits[value]? = some c ∨ upperDigits[value]? = some c

/-- The digits with their values. -/
def digitTable : List (Char × Nat) := lowerDigits.zipIdx ++ upperDigits.zipIdx

theorem Denotes.mem_digitTable {c : Char} {value : Nat} (h : Denotes c value) :
    (c, value) ∈ digitTable := by
  rcases h with h | h
  · exact List.mem_append_left _ (List.mk_mem_zipIdx_iff_getElem?.mpr h)
  · exact List.mem_append_right _ (List.mk_mem_zipIdx_iff_getElem?.mpr h)

theorem Denotes.lt {c : Char} {value : Nat} (h : Denotes c value) : value < 16 := by
  rcases h with h | h
  · exact (List.getElem?_eq_some_iff.mp h).1
  · exact (List.getElem?_eq_some_iff.mp h).1

theorem Denotes.hexValue? {c : Char} {value : Nat} (h : Denotes c value) : hexValue? c = some value := by
  have table : ∀ entry ∈ digitTable, Text.hexValue? entry.1 = some entry.2 := by decide
  exact table (c, value) h.mem_digitTable

/-- There is a digit for every value below 16. -/
theorem exists_denotes {value : Nat} (h : value < 16) : ∃ c, Denotes c value :=
  ⟨lowerDigits.get ⟨value, h⟩, .inl (List.getElem?_eq_getElem h)⟩

theorem denotes_zero : Denotes '0' 0 := .inl rfl

/-! ## Numbers -/

/-- Hexadecimal digits spell a number, the highest first. -/
def SpellsNumber (digits : List Char) (n : Nat) : Prop :=
  ∃ values, List.Forall₂ Denotes digits values ∧ values.foldl (fun n value => 16 * n + value) 0 = n

theorem SpellsNumber.hexNumber? {digits : List Char} {n : Nat} (h : SpellsNumber digits n) :
    hexNumber? digits = some n := by
  obtain ⟨values, hdigits, rfl⟩ := h
  unfold Text.hexNumber?
  generalize 0 = start
  induction hdigits generalizing start with
  | nil => rfl
  | cons hdigit _ ih =>
    simp only [List.foldlM_cons, List.foldl_cons, hdigit.hexValue?, Option.map_some, Option.bind_eq_bind,
      Option.bind_some, Nat.mul_comm start 16]
    exact ih _

theorem spellsNumber_one {c : Char} {n : Nat} : SpellsNumber [c] n ↔ Denotes c n := by
  constructor
  · rintro ⟨values, hvalues, hn⟩
    cases hvalues with
    | cons hc hrest =>
      cases hrest
      simp only [List.foldl_cons, List.foldl_nil, Nat.mul_zero, Nat.zero_add] at hn
      exact hn ▸ hc
  · intro hc
    exact ⟨[n], .cons hc .nil, by simp⟩

theorem spellsNumber_two {high low : Char} {n : Nat} :
    SpellsNumber [high, low] n ↔ ∃ h l, Denotes high h ∧ Denotes low l ∧ n = 16 * h + l := by
  constructor
  · rintro ⟨values, hvalues, hn⟩
    cases hvalues with
    | cons hhigh hrest =>
      cases hrest with
      | cons hlow hrest =>
        cases hrest
        exact ⟨_, _, hhigh, hlow, by simpa using hn.symm⟩
  · rintro ⟨h, l, hhigh, hlow, rfl⟩
    exact ⟨[h, l], .cons hhigh (.cons hlow .nil), by simp⟩

/-! ## Line ends -/

/-- How a line ends. -/
inductive LineEnd where
  | lineFeed
  | carriageReturn
  deriving DecidableEq, Repr

/-- The end of a line as text; a carriage return has a line feed after it. -/
def LineEnd.text : LineEnd → List Char
  | lineFeed => ['\n']
  | carriageReturn => ['\r', '\n']

end DecoderHost.Text

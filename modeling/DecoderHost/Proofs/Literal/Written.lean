import DecoderHost.Literal
import DecoderHost.Proofs.Text.Written

/-!
# Byte slices as they are written

Lines of text that may hold a byte slice each, told by how they are written and not by how they are read. An
element is `0x` and one or two digits, with blanks around it; the elements of a slice stand between braces,
with commas between them and perhaps one more at the end. Before a slice its line must not open another one;
after it anything may follow.
-/

namespace DecoderHost.Literal

open Text (Denotes LineEnd)

/-! ## Elements -/

/-- One or two digits spell a byte, the high one first. -/
inductive Spells : List Char → UInt8 → Prop
  | short {digit : Char} {value : Nat} {byte : UInt8} (hdigit : Denotes digit value)
    (hbyte : byte.toNat = value) : Spells [digit] byte
  | full {high low : Char} {h l : Nat} {byte : UInt8} (hhigh : Denotes high h) (hlow : Denotes low l)
    (hbyte : byte.toNat = 16 * h + l) : Spells [high, low] byte

/-- White space within a line. -/
def IsPadding (text : List Char) : Prop := ∀ c ∈ text, Text.isBlank c ∧ c ≠ '\n'

/-- A byte written as an element. -/
structure Element where
  byte : UInt8
  before : List Char
  digits : List Char
  after : List Char
  before_padding : IsPadding before
  after_padding : IsPadding after
  spells : Spells digits byte

/-- An element as text. -/
def Element.text (e : Element) : List Char := e.before ++ '0' :: 'x' :: (e.digits ++ e.after)

/-- The inside of a byte slice: the elements with a comma between any two, and perhaps one at the end. -/
def inside (elements : List Element) (trailingComma : Bool) : List Char :=
  [','].intercalate (elements.map Element.text) ++ if trailingComma then [','] else []

/-! ## Lines -/

/-- Nothing in a text opens a byte slice. -/
def OpensNone (text : List Char) : Prop := ¬ opening <:+: text

instance (text : List Char) : Decidable (OpensNone text) := inferInstanceAs (Decidable (¬ _))

/-- A line: one without a byte slice, or one with a slice and whatever follows it. -/
inductive Line where
  | plain (text : List Char) (opensNone : OpensNone text) (oneLine : '\n' ∉ text)
  | slice (front : List Char) (elements : List Element) (trailingComma : Bool) (rest : List Char)
    (opensNone : OpensNone front) (oneLine : '\n' ∉ front ∧ '\n' ∉ rest)

namespace Line

/-- A line as text, without its end. -/
def text : Line → List Char
  | plain text _ _ => text
  | slice front elements trailingComma rest _ _ =>
    front ++ opening ++ inside elements trailingComma ++ '\x7d' :: rest

/-- The bytes of the slice in a line. -/
def bytes : Line → List UInt8
  | plain _ _ _ => []
  | slice _ elements _ _ _ _ => elements.map Element.byte

end Line

/-- Lines with their ends, and perhaps a last one that has none. -/
structure Lines where
  ended : List (Line × LineEnd)
  last : Option Line

namespace Lines

/-- Lines as one text. -/
def text (lines : Lines) : List Char :=
  (lines.ended.flatMap fun (line, lineEnd) => line.text ++ lineEnd.text) ++
    (lines.last.map Line.text).getD []

/-- The bytes of all slices in order. -/
def bytes (lines : Lines) : List UInt8 :=
  (lines.ended.flatMap fun (line, _) => line.bytes) ++ (lines.last.map Line.bytes).getD []

end Lines

/-- A line with a slice of two elements, of which the second has a blank before it, and with another slice that
does not count. -/
example : ∃ lines : Lines, lines.text = "x []byte\x7b0x9, 0xFf,\x7d []byte\x7b0x1\x7d\r\n".toList ∧
    lines.bytes = [0x9, 0xFF] := by
  let nine : Element := ⟨9, [], ['9'], [], by simp [IsPadding], by simp [IsPadding],
    .short (show Denotes '9' 9 from .inl rfl) rfl⟩
  let full : Element := ⟨255, [' '], ['F', 'f'], [], by simp [IsPadding, Text.isBlank], by simp [IsPadding],
    .full (h := 15) (l := 15) (.inr rfl) (.inl rfl) rfl⟩
  let line : Line := .slice "x ".toList [nine, full] true " []byte\x7b0x1\x7d".toList (by decide) (by decide)
  exact ⟨⟨[(line, .carriageReturn)], none⟩, rfl, rfl⟩

end DecoderHost.Literal

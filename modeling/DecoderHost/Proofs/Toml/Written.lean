import DecoderHost.Proofs.Text.Written
import DecoderHost.Toml.Document

/-!
# Documents as they are written

Lines of a TOML document, told by how they are written and not by how they are read: headers of tables, settings
with a truth value, a whole number or a basic string, and lines with nothing on them. The relations leave open what
the format leaves open: which escape shows a character, where blanks stand, and how a line ends.
-/

namespace DecoderHost.Toml

open Text (Denotes LineEnd SpellsNumber)

/-! ## Basic strings -/

/-- Characters that a basic string shows by an escape: quotation mark, backslash and controls. -/
def NeedsEscape (c : Char) : Prop := c = '"' ∨ c = '\\' ∨ c.toNat ≤ 0x1F ∨ c.toNat = 0x7F

instance (c : Char) : Decidable (NeedsEscape c) := inferInstanceAs (Decidable (_ ∨ _))

/-- Characters with an escape of one letter, and the letter. -/
def shortEscapes : List (Char × Char) :=
  [('\x08', 'b'), ('\t', 't'), ('\n', 'n'), ('\x0c', 'f'), ('\r', 'r'), ('"', '"'), ('\\', '\\')]

/-- How a character may be written inside a basic string. -/
inductive SpellsChar : List Char → Char → Prop
  | plain {c : Char} (h : ¬ NeedsEscape c) : SpellsChar [c] c
  | short {c letter : Char} (h : (c, letter) ∈ shortEscapes) : SpellsChar ['\\', letter] c
  | code {c : Char} {digits : List Char} (hcount : digits.length = 4) (h : SpellsNumber digits c.toNat) :
    SpellsChar ('\\' :: 'u' :: digits) c
  | longCode {c : Char} {digits : List Char} (hcount : digits.length = 8) (h : SpellsNumber digits c.toNat) :
    SpellsChar ('\\' :: 'U' :: digits) c

/-- How a text may be written inside a basic string: character by character. -/
inductive SpellsText : List Char → List Char → Prop
  | nil : SpellsText [] []
  | cons {word words text : List Char} {c : Char} (hc : SpellsChar word c) (htext : SpellsText words text) :
    SpellsText (word ++ words) (c :: text)

/-- A text that needs no escapes may be written as it is. -/
theorem SpellsText.plain {text : List Char} (h : text.all fun c => ¬ NeedsEscape c) : SpellsText text text := by
  induction text with
  | nil => exact .nil
  | cons c text ih =>
    obtain ⟨hc, htext⟩ := Bool.and_eq_true_iff.mp h
    exact .cons (.plain (of_decide_eq_true hc)) (ih htext)

/-! ## Lines -/

/-- How a value may be written: a truth value by its name, a number in decimal, a text as a basic string. -/
inductive SpellsValue : List Char → Value → Prop
  | boolean (truth : Bool) : SpellsValue (if truth then "true" else "false").toList (.boolean truth)
  | integer (n : Nat) (h : n ≤ 9223372036854775807) : SpellsValue (Nat.toDigits 10 n) (.integer n)
  | string {inside : List Char} {text : String} (h : SpellsText inside text.toList) :
    SpellsValue ('"' :: (inside ++ ['"'])) (.string text)

/-- Spaces and tabs. -/
def IsBlanks (text : List Char) : Prop := ∀ c ∈ text, c = ' ' ∨ c = '\t'

/-- A key that needs no quotes. -/
structure IsBareKey (key : String) : Prop where
  ne_nil : key.toList ≠ []
  bare : ∀ c ∈ key.toList, isBare c

instance (key : String) : Decidable (IsBareKey key) :=
  decidable_of_iff (key.toList ≠ [] ∧ key.toList.all isBare)
    ⟨fun h => ⟨h.1, List.all_eq_true.mp h.2⟩, fun h => ⟨h.ne_nil, List.all_eq_true.mpr h.bare⟩⟩

/-- The path in the header of a table. Dots part the keys, of which there may be only so many. -/
structure IsPath (path : List String) : Prop where
  ne_nil : path ≠ []
  length_lt : path.length < depthLimit
  isBareKey : ∀ key ∈ path, IsBareKey key

/-- A line of a document, by what it says. -/
inductive Line where
  | blank
  | header (path : List String)
  | setting (key : String) (value : Value)

/-- Is there nothing on the line? -/
def Line.isBlank : Line → Bool
  | blank => true
  | _ => false

/-- A table of a document: the path in its header, and its settings. -/
structure Table where
  path : List String
  settings : List (String × Value)

/-- The lines of a table. -/
def Table.lines (table : Table) : List Line :=
  .header table.path :: table.settings.map fun (key, value) => .setting key value

/-- How a line may be written, its end included. -/
inductive SpellsLine : List Char → Line → Prop
  | blank {before : List Char} (hbefore : IsBlanks before) (lineEnd : LineEnd) :
    SpellsLine (before ++ lineEnd.text) .blank
  | header {before after : List Char} {path : List String} (hbefore : IsBlanks before) (hpath : IsPath path)
    (hafter : IsBlanks after) (lineEnd : LineEnd) :
    SpellsLine (before ++ '[' :: (['.'].intercalate (path.map String.toList) ++ ']' :: (after ++ lineEnd.text)))
      (.header path)
  | setting (key : String) {before left right word after : List Char} {value : Value} (hbefore : IsBlanks before)
    (hkey : IsBareKey key) (hleft : IsBlanks left) (hright : IsBlanks right) (hvalue : SpellsValue word value)
    (hafter : IsBlanks after) (lineEnd : LineEnd) :
    SpellsLine (before ++ (key.toList ++ (left ++ '=' :: (right ++ (word ++ (after ++ lineEnd.text))))))
      (.setting key value)

/-- How lines may be written: one after the other. -/
inductive SpellsLines : List Char → List Line → Prop
  | nil : SpellsLines [] []
  | cons {text rest : List Char} {line : Line} {lines : List Line} (hline : SpellsLine text line)
    (hlines : SpellsLines rest lines) : SpellsLines (text ++ rest) (line :: lines)

/-! ## Everything can be written -/

/-- A number below 256 is spelled by four digits, of which the first two are zeros. -/
theorem exists_spellsNumber {n : Nat} (h : n < 256) :
    ∃ digits : List Char, digits.length = 4 ∧ SpellsNumber digits n := by
  obtain ⟨high, hhigh⟩ := Text.exists_denotes (show n / 16 < 16 by omega)
  obtain ⟨low, hlow⟩ := Text.exists_denotes (show n % 16 < 16 by omega)
  refine ⟨['0', '0', high, low], rfl, [0, 0, n / 16, n % 16], ?_, ?_⟩
  · exact .cons Text.denotes_zero (.cons Text.denotes_zero (.cons hhigh (.cons hlow .nil)))
  · simp only [List.foldl_cons, List.foldl_nil]
    omega

/-- Every character has a spelling: itself, or an escape. -/
theorem exists_spellsChar (c : Char) : ∃ word, SpellsChar word c := by
  by_cases hc : NeedsEscape c
  · have hcode (h : c.toNat < 256) : ∃ word, SpellsChar word c := by
      obtain ⟨digits, hcount, hdigits⟩ := exists_spellsNumber h
      exact ⟨_, .code hcount hdigits⟩
    rcases hc with rfl | rfl | hc | hc
    · exact hcode (by decide)
    · exact hcode (by decide)
    · exact hcode (by omega)
    · exact hcode (by omega)
  · exact ⟨_, .plain hc⟩

theorem exists_spellsText (text : List Char) : ∃ inside, SpellsText inside text := by
  induction text with
  | nil => exact ⟨_, .nil⟩
  | cons c text ih =>
    obtain ⟨word, hword⟩ := exists_spellsChar c
    obtain ⟨words, hwords⟩ := ih
    exact ⟨_, .cons hword hwords⟩

/-- A setting that can be written. -/
def Writable (setting : String × Value) : Prop := ∃ text, SpellsLine text (.setting setting.1 setting.2)

theorem SpellsValue.writable {key : String} (hkey : IsBareKey key) {word : List Char} {value : Value}
    (h : SpellsValue word value) : Writable (key, value) := by
  have hnone : IsBlanks [] := by simp [IsBlanks]
  exact ⟨_, .setting key hnone hkey hnone hnone h hnone .lineFeed⟩

theorem Writable.boolean {key : String} (hkey : IsBareKey key) (truth : Bool) : Writable (key, .boolean truth) :=
  (SpellsValue.boolean truth).writable hkey

theorem Writable.word {key : String} (hkey : IsBareKey key) (n : UInt32) : Writable (key, .integer n.toNat) :=
  (SpellsValue.integer n.toNat (Nat.le_of_lt (Nat.lt_of_lt_of_le n.toNat_lt (by decide)))).writable hkey

theorem Writable.string {key : String} (hkey : IsBareKey key) (text : String) : Writable (key, .string text) := by
  obtain ⟨inside, hinside⟩ := exists_spellsText text.toList
  exact (SpellsValue.string hinside).writable hkey

/-- A text that may be absent is left out, or written as a string. -/
theorem writable_toList {key : String} (hkey : IsBareKey key) (text : Option String) :
    ∀ setting ∈ (text.map fun text => (key, Value.string text)).toList, Writable setting := by
  cases text with
  | none => simp
  | some text => simpa using Writable.string hkey text

theorem exists_spellsTable {table : Table} (hpath : IsPath table.path)
    (hsettings : ∀ setting ∈ table.settings, Writable setting) :
    ∀ line ∈ table.lines, ∃ text, SpellsLine text line := by
  have hnone : IsBlanks [] := by simp [IsBlanks]
  intro line hline
  rcases List.mem_cons.mp hline with rfl | hline
  · exact ⟨_, .header hnone hpath hnone .lineFeed⟩
  · obtain ⟨setting, hsetting, rfl⟩ := List.mem_map.mp hline
    exact hsettings setting hsetting

theorem exists_spellsLines {lines : List Line} (h : ∀ line ∈ lines, ∃ text, SpellsLine text line) :
    ∃ text, SpellsLines text lines := by
  induction lines with
  | nil => exact ⟨_, .nil⟩
  | cons line lines ih =>
    obtain ⟨hline, hlines⟩ := List.forall_mem_cons.mp h
    obtain ⟨text, htext⟩ := hline
    obtain ⟨rest, hrest⟩ := ih hlines
    exact ⟨_, .cons htext hrest⟩

end DecoderHost.Toml

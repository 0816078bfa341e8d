import DecoderHost.Proofs.Toml.Written
import Mathlib.Tactic.IntervalCases
import Mathlib.Tactic.Tauto

/-!
# Values are read as they are written

Each reader is the inverse of a way of writing. A string is read up to its closing quotation mark whatever follows,
while a number ends where its digits do, so that something must follow which can belong to no number.
-/

namespace DecoderHost.Toml

/-! ## Strings -/

theorem scalar?_toNat (c : Char) : Text.scalar? c.toNat = some c := by
  have hvalid : c.toNat.isValidChar := c.valid
  have hback := Char.ofNat_toNat c
  rw [Char.ofNat, dif_pos hvalid] at hback
  rw [Text.scalar?, dif_pos hvalid, hback]

theorem isPlain_of_not_needsEscape {c : Char} (h : ¬ NeedsEscape c) : isPlain c = true := by
  simp only [NeedsEscape, not_or] at h
  simp only [isPlain, Bool.or_eq_true, Bool.and_eq_true, decide_eq_true_eq]
  omega

theorem readBasic_of_plain {c : Char} (hquote : c ≠ '"') (hbackslash : c ≠ '\\') (hplain : isPlain c = true)
    (rest : List Char) : readBasic (c :: rest) = prepend c (readBasic rest) := by
  rw [readBasic.eq_def]
  split <;> simp_all

/-- A character is read from any of its spellings. -/
theorem SpellsChar.readBasic {word : List Char} {c : Char} (h : SpellsChar word c) (rest : List Char) :
    readBasic (word ++ rest) = prepend c (readBasic rest) := by
  cases h with
  | plain h =>
    have hplain := isPlain_of_not_needsEscape h
    simp only [NeedsEscape, not_or] at h
    exact readBasic_of_plain h.1 h.2.1 hplain rest
  | short h =>
    simp only [shortEscapes, List.mem_cons, Prod.mk.injEq, List.not_mem_nil, or_false] at h
    rcases h with ⟨rfl, rfl⟩ | ⟨rfl, rfl⟩ | ⟨rfl, rfl⟩ | ⟨rfl, rfl⟩ | ⟨rfl, rfl⟩ | ⟨rfl, rfl⟩ | ⟨rfl, rfl⟩ <;> rfl
  | @code _ digits hcount h =>
    match digits, hcount with
    | [a, b, c', d], _ =>
      simp only [List.cons_append, List.nil_append, Toml.readBasic, h.hexNumber?, Option.bind_some, scalar?_toNat]
  | @longCode _ digits hcount h =>
    match digits, hcount with
    | [a, b, c', d, e, f, g, h'], _ =>
      simp only [List.cons_append, List.nil_append, Toml.readBasic, h.hexNumber?, Option.bind_some, scalar?_toNat]

theorem SpellsText.readBasic {inside text : List Char} (h : SpellsText inside text) (rest : List Char) :
    readBasic (inside ++ '"' :: rest) = some (text, rest) := by
  induction h with
  | nil => rfl
  | cons hc _ ih => rw [List.append_assoc, hc.readBasic, ih]; rfl

/-- What may follow a value on its line: blanks, or the end of the line. -/
def Follows (rest : List Char) : Prop := ∀ c ∈ rest.head?, c ∈ [' ', '\t', '\n', '\r']

/-- No spelling begins with a quotation mark, so that a string does not begin with three of them. -/
theorem SpellsChar.head_ne {word : List Char} {c : Char} (h : SpellsChar word c) :
    ∃ first rest, word = first :: rest ∧ first ≠ '"' := by
  cases h with
  | plain h => exact ⟨_, _, rfl, fun hquote => h (.inl hquote)⟩
  | _ => exact ⟨_, _, rfl, by decide⟩

theorem SpellsText.readString {inside text rest : List Char} (h : SpellsText inside text) (hrest : Follows rest) :
    readString ('"' :: (inside ++ '"' :: rest)) = some (text, rest) := by
  have hread := h.readBasic rest
  cases h with
  | nil =>
    -- Two quotation marks are the empty string, as no third one follows.
    cases rest with
    | nil => rfl
    | cons c rest =>
      have hc : c ≠ '"' := by
        rintro rfl
        exact absurd (hrest '"' rfl) (by decide)
      simp [Toml.readString, hc, readLineString, Toml.readBasic]
  | cons hc htext =>
    obtain ⟨first, word, rfl, hfirst⟩ := hc.head_ne
    simpa [Toml.readString, hfirst, readLineString] using hread

/-! ## Numbers -/

theorem Follows.not_digit {c : Char} {rest : List Char} (h : Follows (c :: rest)) :
    isDigit c = false ∧ c ∉ ['_', '.', '-', ':', 'e', 'E', 'x', 'o', 'b'] := by
  have hc := h c rfl
  simp only [List.mem_cons, List.not_mem_nil, or_false] at hc
  rcases hc with rfl | rfl | rfl | rfl <;> decide

theorem isDigit_of_mem_toDigits {n : Nat} {c : Char} (h : c ∈ Nat.toDigits 10 n) : isDigit c = true := by
  have hdigit := Nat.isDigit_of_mem_toDigits (by decide) (by decide) h
  simpa [Char.isDigit, isDigit, Char.le_def] using hdigit

/-- Characters are told apart by a property that only one of them has. -/
theorem ne_of_class {p : Char → Bool} {c d : Char} (hc : p c = true) (hd : p d = false) : c ≠ d := by
  rintro rfl
  simp [hc] at hd

/-- A numeral begins with a digit and goes on with digits. -/
theorem exists_toDigits (n : Nat) :
    ∃ d digits, Nat.toDigits 10 n = d :: digits ∧ isDigit d = true ∧ ∀ c ∈ digits, isDigit c = true := by
  have hall : ∀ c ∈ Nat.toDigits 10 n, isDigit c = true := fun _ => isDigit_of_mem_toDigits
  cases hdigits : Nat.toDigits 10 n with
  | nil => exact absurd hdigits Nat.toDigits_ne_nil
  | cons d digits =>
    rw [hdigits] at hall
    exact ⟨d, digits, rfl, List.forall_mem_cons.mp hall⟩

/-- A numeral has no leading zero. -/
theorem head_toDigits {n : Nat} (h : 0 < n) : (Nat.toDigits 10 n).head? ≠ some '0' := by
  induction n using Nat.strong_induction_on with
  | _ n ih =>
    by_cases hn : n < 10
    · interval_cases n <;> decide
    · rw [Nat.toDigits_of_base_le (by decide) (by omega)]
      have hhead := ih (n / 10) (by omega) (by omega)
      obtain ⟨d, digits, hdigits, -⟩ := exists_toDigits (n / 10)
      simpa [hdigits] using hhead

theorem hexValue?_of_isDigit {c : Char} (h : isDigit c = true) : Text.hexValue? c = some (c.toNat - '0'.toNat) := by
  simp only [isDigit, Bool.and_eq_true, decide_eq_true_eq] at h
  exact if_pos h

/-- Digits are given the same value as by the library. -/
theorem foldl_digits {digits : List Char} (hdigits : ∀ c ∈ digits, isDigit c = true) (start : Nat) :
    digits.foldl (fun n c => n * 10 + (Text.hexValue? c).getD 0) start = Nat.ofDigitChars 10 digits start := by
  induction digits generalizing start with
  | nil => rfl
  | cons d digits ih =>
    obtain ⟨hd, hdigits⟩ := List.forall_mem_cons.mp hdigits
    rw [List.foldl_cons, ih hdigits, hexValue?_of_isDigit hd, Option.getD_some, Nat.mul_comm]
    rfl

theorem digitsValue_toDigits (n : Nat) : digitsValue 10 (Nat.toDigits 10 n) = n := by
  rw [digitsValue, foldl_digits fun _ => isDigit_of_mem_toDigits]
  exact Nat.ofDigitChars_toDigits (by decide) (by decide)

theorem readDigits_append {digits rest : List Char} (hdigits : ∀ c ∈ digits, isDigit c = true)
    (hrest : Follows rest) : readDigits isDigit (digits ++ rest) = (digits, rest) := by
  induction digits with
  | nil =>
    cases rest with
    | nil => rfl
    | cons c rest =>
      have hc := hrest.not_digit
      rw [List.nil_append, readDigits.eq_def]
      split <;> simp_all
  | cons d digits ih =>
    obtain ⟨hd, hdigits⟩ := List.forall_mem_cons.mp hdigits
    have hne : d ≠ '_' := ne_of_class hd (by decide)
    rw [List.cons_append, readDigits.eq_def]
    split <;> simp_all

/-- A numeral that begins with a zero is one. -/
theorem eq_of_toDigits_append {n : Nat} {rest left : List Char}
    (h : Nat.toDigits 10 n ++ rest = '0' :: left) : n = 0 ∧ left = rest := by
  rcases Nat.eq_zero_or_pos n with rfl | hn
  · exact ⟨rfl, (List.cons.inj h).2.symm⟩
  · obtain ⟨d, digits, hdigits, -⟩ := exists_toDigits n
    rw [hdigits, List.cons_append, List.cons.injEq] at h
    exact absurd (by rw [hdigits, h.1]; rfl) (head_toDigits hn)

theorem readWhole_toDigits (n : Nat) {rest : List Char} (hrest : Follows rest) :
    readWhole (Nat.toDigits 10 n ++ rest) = some (Nat.toDigits 10 n, rest) := by
  rw [readWhole.eq_def]
  split
  · next left heq =>
    obtain ⟨rfl, rfl⟩ := eq_of_toDigits_append heq
    rfl
  · obtain ⟨d, digits, hdigits, hd, hall⟩ := exists_toDigits n
    simp [hdigits, readSomeDigits, hd, readDigits_append hall hrest]

theorem readSign_toDigits (n : Nat) (rest : List Char) :
    readSign (Nat.toDigits 10 n ++ rest) = (false, Nat.toDigits 10 n ++ rest) := by
  obtain ⟨d, digits, hdigits, hd, -⟩ := exists_toDigits n
  have hplus : d ≠ '+' := ne_of_class hd (by decide)
  have hminus : d ≠ '-' := ne_of_class hd (by decide)
  simp [hdigits, readSign, hplus, hminus]

theorem readInteger_toDigits {n : Nat} (h : n ≤ 9223372036854775807) {rest : List Char} (hrest : Follows rest) :
    readInteger (Nat.toDigits 10 n ++ rest) = some (.integer n, rest) := by
  -- The mark of a base would stand behind a zero, but there the numeral ends.
  have hmark : ∀ c left, Nat.toDigits 10 n ++ rest = '0' :: c :: left → c ∉ ['x', 'o', 'b'] := by
    intro c left heq hc
    obtain ⟨-, rfl⟩ := eq_of_toDigits_append heq
    have hne := hrest.not_digit.2
    simp only [List.mem_cons, List.not_mem_nil, or_false] at hc hne
    tauto
  rw [readInteger.eq_def]
  split
  · next heq => exact absurd (by decide) (hmark _ _ heq)
  · next heq => exact absurd (by decide) (hmark _ _ heq)
  · next heq => exact absurd (by decide) (hmark _ _ heq)
  · have hchecked : checkedInteger n = some (.integer n) := if_pos (by omega)
    simp [readSign_toDigits, readWhole_toDigits n hrest, digitsValue_toDigits, hchecked]

/-- Digits alone are no floating-point number. -/
theorem readFloating_toDigits (n : Nat) {rest : List Char} (hrest : Follows rest) :
    readFloating (Nat.toDigits 10 n ++ rest) = none := by
  have hwhole := readWhole_toDigits n hrest
  unfold readFloating
  rw [readSign_toDigits]
  obtain ⟨d, digits, hdigits, hd, -⟩ := exists_toDigits n
  have hi : d ≠ 'i' := ne_of_class hd (by decide)
  have hn : d ≠ 'n' := ne_of_class hd (by decide)
  rw [hdigits, List.cons_append] at hwhole ⊢
  cases rest with
  | nil =>
    rw [List.append_nil] at hwhole ⊢
    simp [hi, hn, hwhole, readExponent]
  | cons c rest =>
    have hc := hrest.not_digit.2
    simp only [List.mem_cons, List.not_mem_nil, or_false, not_or] at hc
    simp [hi, hn, hwhole, readExponent, hc]

/-- A reader of so many digits stops inside a numeral or at its end. -/
theorem drop_of_all_digits {digits rest : List Char} (hrest : Follows rest) {count : Nat}
    (hcount : ((digits ++ rest).take count).length = count) (hall : ((digits ++ rest).take count).all isDigit) :
    (digits ++ rest).drop count = digits.drop count ++ rest := by
  induction digits generalizing count with
  | nil =>
    cases count with
    | zero => rfl
    | succ count =>
      cases rest with
      | nil => simp at hcount
      | cons c rest => simp [hrest.not_digit.1] at hall
  | cons d digits ih =>
    cases count with
    | zero => rfl
    | succ count =>
      simp only [List.cons_append, List.take_succ_cons, List.length_cons, List.all_cons, Bool.and_eq_true,
        Nat.succ.injEq] at hcount hall
      exact ih hcount hall.2

/-- So many digits of a numeral are not followed by the mark that parts a date or a time. -/
theorem expect_readFixed {digits rest : List Char} (hdigits : ∀ c ∈ digits, isDigit c = true) (hrest : Follows rest)
    {mark : Char} (hmark : mark = '-' ∨ mark = ':') {count : Nat} {result : Nat × List Char}
    (hread : readFixed count (digits ++ rest) = some result) : expect mark result.2 = none := by
  unfold readFixed at hread
  dsimp only at hread
  split at hread
  · next h =>
    rw [drop_of_all_digits hrest h.1 h.2, Option.some.injEq] at hread
    subst hread
    cases hleft : digits.drop count ++ rest with
    | nil => rfl
    | cons c left =>
      refine if_neg ?_
      rintro rfl
      rcases List.append_eq_cons_iff.mp hleft with ⟨-, rfl⟩ | ⟨left', hdrop, -⟩
      · have hne := hrest.not_digit.2
        simp only [List.mem_cons, List.not_mem_nil, or_false] at hne
        tauto
      · have hdigit : isDigit mark = true := hdigits mark (List.mem_of_mem_drop (hdrop ▸ List.mem_cons_self))
        rcases hmark with rfl | rfl <;> exact absurd hdigit (by decide)
  · cases hread

/-- Digits alone are no date and no time. -/
theorem readMoment_toDigits (n : Nat) {rest : List Char} (hrest : Follows rest) :
    readMoment (Nat.toDigits 10 n ++ rest) = none := by
  have hdigits : ∀ c ∈ Nat.toDigits 10 n, isDigit c = true := fun _ => isDigit_of_mem_toDigits
  have hdate : readDate (Nat.toDigits 10 n ++ rest) = none := by
    unfold readDate
    cases hread : readFixed 4 (Nat.toDigits 10 n ++ rest) with
    | none => rfl
    | some result =>
      have hdash := expect_readFixed hdigits hrest (.inl rfl) hread
      simp only [Option.bind_eq_bind, Option.bind_some, hdash, Option.bind_none]
  have htime : readTime (Nat.toDigits 10 n ++ rest) = none := by
    unfold readTime readHourMinute
    cases hread : readFixed 2 (Nat.toDigits 10 n ++ rest) with
    | none => rfl
    | some result =>
      have hcolon := expect_readFixed hdigits hrest (.inr rfl) hread
      simp only [Option.bind_eq_bind, Option.bind_some, hcolon, Option.bind_none]
  simp [readMoment, hdate, htime]

theorem readNumeric_toDigits {n : Nat} (h : n ≤ 9223372036854775807) {rest : List Char} (hrest : Follows rest) :
    readNumeric (Nat.toDigits 10 n ++ rest) = some (.integer n, rest) := by
  simp [readNumeric, readMoment_toDigits n hrest, readFloating_toDigits n hrest, readInteger_toDigits h hrest]

/-! ## Values -/

/-- A value is read as it is written, up to what follows it on its line. -/
theorem SpellsValue.readValue {word : List Char} {value : Value} (h : SpellsValue word value) {rest : List Char}
    (hrest : Follows rest) (steps : Nat) (depth : Nat) :
    readValue (steps + 1) depth (word ++ rest) = some (value, rest) := by
  cases h with
  | boolean truth => cases truth <;> rfl
  | integer n hn =>
    obtain ⟨d, digits, hdigits, hd, -⟩ := exists_toDigits n
    have hnumeric := readNumeric_toDigits hn hrest
    rw [hdigits, List.cons_append] at hnumeric ⊢
    have hne : ∀ c ∈ ['[', '\x7b', 't', 'f', '"', '\'', 'i', 'n'], d ≠ c := by
      intro c hc
      have table : ['[', '\x7b', 't', 'f', '"', '\'', 'i', 'n'].all (fun c => !isDigit c) = true := by decide
      exact ne_of_class hd (by simpa using List.all_eq_true.mp table c hc)
    simp only [List.forall_mem_cons] at hne
    rw [Toml.readValue.eq_def]
    simp [hne, hd, hnumeric]
  | @string inside text htext =>
    have hstring := htext.readString hrest
    rw [List.cons_append, List.append_assoc, List.singleton_append, Toml.readValue.eq_def]
    simp [hstring]

end DecoderHost.Toml

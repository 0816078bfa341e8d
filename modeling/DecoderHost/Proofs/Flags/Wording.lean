import DecoderHost.EngineOption
import DecoderHost.Mode
import DecoderHost.Proofs.Flags.Listing
import Mathlib.Tactic.IntervalCases

/-!
# The text of a value tells the value

The text of a value is its words between bars: the listed names, and one hexadecimal number for the unnamed rest. Names
hold no blanks and no bars and do not begin like a number (`Readable`), so the words can be found again, and each is
worth the bits that it was written for (`read_describe`). The main statement is `Flag.lossless`: the modes and the
option values are declared so that neither their parts nor their texts lose anything.
-/

namespace DecoderHost

/-! ## Numerals -/

namespace Text

/-- A hexadecimal numeral is read back. -/
theorem hexNumber?_toDigits (n : Nat) : hexNumber? (Nat.toDigits 16 n) = some n := by
  have hdigit : ∀ d < 16, hexValue? (Nat.digitChar d) = some d := by decide
  induction n using Nat.strong_induction_on with
  | _ n ih =>
    by_cases hn : n < 16
    · rw [Nat.toDigits_of_lt_base hn, hexNumber?, List.foldlM_cons, hdigit n hn]
      simp
    · have hinit := ih (n / 16) (by omega)
      rw [hexNumber?] at hinit
      rw [Nat.toDigits_of_base_le (by decide) (by omega), hexNumber?, List.foldlM_append, hinit]
      simp [hdigit (n % 16) (by omega)]
      omega

/-- A hexadecimal numeral holds digits only. -/
theorem exists_digitChar_of_mem {n : Nat} {c : Char} (h : c ∈ Nat.toDigits 16 n) : ∃ d < 16, c = Nat.digitChar d := by
  induction n using Nat.strong_induction_on with
  | _ n ih =>
    by_cases hn : n < 16
    · rw [Nat.toDigits_of_lt_base hn] at h
      exact ⟨n, hn, List.mem_singleton.mp h⟩
    · rw [Nat.toDigits_of_base_le (by decide) (by omega), List.mem_append] at h
      rcases h with h | h
      · exact ih (n / 16) (by omega) h
      · exact ⟨n % 16, by omega, List.mem_singleton.mp h⟩

theorem toList_hexAddress (n : Nat) : (hexAddress n).toList = '0' :: 'x' :: Nat.toDigits 16 n := by
  simp [hexAddress, hexadecimal]

end Text

namespace Flag

variable {width : Nat} {flags : List (Flag width)} {value : BitVec width}

/-! ## Words -/

/-- The words for a value: the listed names, and the unnamed rest unless there is none. No bits at all are a rest. -/
def words (flags : List (Flag width)) (value : BitVec width) : List String :=
  (listed flags value).map Flag.name ++
    if value ≠ 0 ∧ unnamed flags value = 0 then [] else [Text.hexAddress (unnamed flags value).toNat]

/-- A word can be found again between bars. -/
def IsWord (text : List Char) : Prop := ' ' ∉ text ∧ '|' ∉ text

instance (text : List Char) : Decidable (IsWord text) := inferInstanceAs (Decidable (_ ∧ _))

/-- The names are told apart, each is a word, and none begins like a number. -/
structure Readable (flags : List (Flag width)) : Prop where
  distinct : (flags.map Flag.name).Nodup
  plain : ∀ flag ∈ flags, IsWord flag.name.toList ∧ flag.name.toList.head? ≠ some '0'

/-- What a word is worth: the bits of the name, or the number. -/
def worth (flags : List (Flag width)) (word : List Char) : BitVec width :=
  match named? flags (String.ofList word) with
  | some bits => bits
  | none => BitVec.ofNat width ((Text.hexNumber? (word.drop 2)).getD 0)

/-- The value that a text tells: what its words are worth together. -/
def read (flags : List (Flag width)) (text : String) : BitVec width :=
  (((text.toList.filter (· ≠ ' ')).splitOn '|').map (worth flags)).foldr (· ||| ·) 0

/-- Words between bars are found again. -/
theorem splitOn_bars {texts : List (List Char)} (h : ∀ text ∈ texts, IsWord text) (hne : texts ≠ []) :
    (([' ', '|', ' '].intercalate texts).filter (· ≠ ' ')).splitOn '|' = texts := by
  have hkeep : ∀ text : List Char, ' ' ∉ text → text.filter (· ≠ ' ') = text := by
    intro text htext
    rw [List.filter_eq_self]
    intro c hc
    exact decide_eq_true fun hblank => htext (hblank ▸ hc)
  have hbars : ([' ', '|', ' '].intercalate texts).filter (· ≠ ' ') = ['|'].intercalate texts := by
    induction texts with
    | nil => rfl
    | cons text texts ih =>
      obtain ⟨htext, hrest⟩ := List.forall_mem_cons.mp h
      cases texts with
      | nil => simpa using hkeep text htext.1
      | cons next texts =>
        rw [List.intercalate_cons_cons, List.intercalate_cons_cons, List.filter_append, List.filter_append,
          ih hrest (by simp), hkeep text htext.1]
        rfl
  rw [hbars]
  exact List.splitOn_intercalate '|' (fun text htext => (h text htext).2) hne

theorem isWord_hexAddress (n : Nat) : IsWord (Text.hexAddress n).toList := by
  -- Every digit has a value, and neither a blank nor a bar has one.
  have hdigits : ∀ c ∈ Nat.toDigits 16 n, c ≠ ' ' ∧ c ≠ '|' := by
    intro c hc
    obtain ⟨d, hd, rfl⟩ := Text.exists_digitChar_of_mem hc
    interval_cases d <;> decide
  rw [Text.toList_hexAddress]
  constructor
  · intro hblank
    simp only [List.mem_cons] at hblank
    exact (hdigits ' ' (by simpa using hblank)).1 rfl
  · intro hbar
    simp only [List.mem_cons] at hbar
    exact (hdigits '|' (by simpa using hbar)).2 rfl

theorem words_ne_nil (h : SinglesFirst 0 flags) (value : BitVec width) : words flags value ≠ [] := by
  intro hnil
  obtain ⟨hnames, hrest⟩ := List.append_eq_nil_iff.mp hnil
  have htotal := h.total value
  split at hrest
  · next hwhole =>
    rw [List.map_eq_nil_iff.mp hnames, hwhole.2] at htotal
    exact hwhole.1 (by simpa using htotal.symm)
  · cases hrest

/-- A text is made of its words. -/
theorem describe_eq (h : SinglesFirst 0 flags) (value : BitVec width) :
    describe flags value = " | ".intercalate (words flags value) := by
  by_cases hzero : value = 0
  · have hlisted : listed flags value = [] := by
      rw [List.eq_nil_iff_forall_not_mem]
      intro name hname
      obtain ⟨i, hi, -⟩ := h.bits_of_mem_listed hname
      simp [hzero] at hi
    have hrest : unnamed flags value = 0 := by
      rw [h.unnamed_eq, hzero]
      simp
    rw [describe, words, if_pos hzero, hlisted, hrest, if_neg fun hwhole => hwhole.1 hzero]
    simp [Text.hexAddress, Text.hexadecimal]
  · rw [describe, words, if_neg hzero]
    simp only [ne_eq, hzero, not_false_eq_true, true_and]

/-! ## What words are worth -/

/-- A name is worth its bits. -/
theorem Readable.worth_name (h : Readable flags) {flag : Flag width} (hflag : flag ∈ flags) :
    worth flags flag.name.toList = flag.bits := by
  have hnamed : named? flags flag.name = some flag.bits := by
    cases hfind : flags.find? (fun other => other.name == flag.name) with
    | none => simpa using List.find?_eq_none.mp hfind flag hflag
    | some other =>
      have hsame : other = flag := List.inj_on_of_nodup_map h.distinct (List.mem_of_find?_eq_some hfind) hflag
        (by simpa using List.find?_some hfind)
      rw [named?, hfind, hsame]
      rfl
  rw [worth, String.ofList_toList, hnamed]

/-- A number is no name, and is worth itself. -/
theorem Readable.worth_hexAddress (h : Readable flags) (bits : BitVec width) :
    worth flags (Text.hexAddress bits.toNat).toList = bits := by
  have hunnamed : named? flags (Text.hexAddress bits.toNat) = none := by
    rw [named?, Option.map_eq_none_iff, List.find?_eq_none]
    intro flag hflag hname
    have hhead := (h.plain flag hflag).2
    rw [beq_iff_eq.mp hname, Text.toList_hexAddress] at hhead
    exact hhead rfl
  rw [worth, String.ofList_toList, hunnamed, Text.toList_hexAddress]
  simp [Text.hexNumber?_toDigits]

theorem Readable.isWord_of_mem_words (h : Readable flags) {word : String} (hword : word ∈ words flags value) :
    IsWord word.toList := by
  rcases List.mem_append.mp hword with hname | hrest
  · obtain ⟨flag, hflag, rfl⟩ := List.mem_map.mp hname
    exact (h.plain flag ((walk_sublist value flags value).subset hflag)).1
  · split at hrest
    · cases hrest
    · rw [List.mem_singleton.mp hrest]
      exact isWord_hexAddress _

/-- The words for a value are worth its parts. -/
theorem Readable.worth_words (h : Readable flags) (value : BitVec width) :
    (words flags value).map (fun word => worth flags word.toList) = (listed flags value).map Flag.bits ++
      if value ≠ 0 ∧ unnamed flags value = 0 then [] else [unnamed flags value] := by
  rw [words, List.map_append, List.map_map]
  congr 1
  · apply List.map_congr_left
    intro flag hflag
    exact h.worth_name ((walk_sublist value flags value).subset hflag)
  · split
    · rfl
    · exact congrArg (· :: []) (h.worth_hexAddress _)

/-- **The text of a value is read back.** -/
theorem Readable.read_describe (h : Readable flags) (hsingles : SinglesFirst 0 flags) (value : BitVec width) :
    read flags (describe flags value) = value := by
  have hwords : ∀ text ∈ (words flags value).map String.toList, IsWord text := by
    intro text htext
    obtain ⟨word, hword, rfl⟩ := List.mem_map.mp htext
    exact h.isWord_of_mem_words hword
  have hne : (words flags value).map String.toList ≠ [] := by
    simpa using words_ne_nil hsingles value
  have hsplit : ((describe flags value).toList.filter (· ≠ ' ')).splitOn '|' = (words flags value).map String.toList := by
    rw [describe_eq hsingles, String.toList_intercalate]
    exact splitOn_bars hwords hne
  rw [read, hsplit, List.map_map]
  show ((words flags value).map (fun word => worth flags word.toList)).foldr (· ||| ·) 0 = value
  rw [h.worth_words]
  refine Eq.trans ?_ (hsingles.total value)
  split
  · next hwhole => rw [hwhole.2]; simp
  · rfl

theorem Readable.describe_injective (h : Readable flags) (hsingles : SinglesFirst 0 flags) :
    Function.Injective (describe flags) :=
  Function.LeftInverse.injective (h.read_describe hsingles)

end Flag

/-! ## Modes and option values -/

theorem Mode.singlesFirst : Flag.SinglesFirst 0 flags := by
  decide +kernel

theorem Mode.readable : Flag.Readable flags where
  distinct := by decide +kernel
  plain := by decide +kernel

theorem OptionValue.singlesFirst : Flag.SinglesFirst 0 flags := by
  decide +kernel

theorem OptionValue.readable : Flag.Readable flags where
  distinct := by decide +kernel
  plain := by decide +kernel

/-- **Modes and option values lose nothing.** Every value, bits without a name included, comes to parts that share
nothing and make it up: one name for each set bit that has one, the first that is declared for that bit alone, and a
rest without any named bit, which is empty just if the value is all named. And its text tells the value: two values
never have the same. -/
theorem Flag.lossless :
    (∀ mode : Mode, Decomposes Mode.flags mode.bits) ∧ Function.Injective Mode.debug ∧
      (∀ value : OptionValue, Decomposes OptionValue.flags value.bits) ∧ Function.Injective OptionValue.debug := by
  refine ⟨fun mode => Mode.singlesFirst.decomposes mode.bits, ?_,
    fun value => OptionValue.singlesFirst.decomposes value.bits, ?_⟩
  · intro mode other heq
    have htext : describe Mode.flags mode.bits = describe Mode.flags other.bits := by simpa [Mode.debug] using heq
    exact congrArg Mode.mk (Mode.readable.describe_injective Mode.singlesFirst htext)
  · intro value other heq
    have htext : describe OptionValue.flags value.bits = describe OptionValue.flags other.bits := by
      simpa [OptionValue.debug] using heq
    exact congrArg OptionValue.mk (OptionValue.readable.describe_injective OptionValue.singlesFirst htext)

/-- Two bits that have a name together are listed by the first name of each. -/
example : (Flag.listed Mode.flags 0x80100060).map Flag.name = ["MCLASS", "V8", "BIG_ENDIAN"] := by decide

end DecoderHost

import DecoderHost.CommandLine

/-!
# Command lines as they are written

What may be given on a command line, told by how it is written and not by how it is read. An option stands before its
value, in a word of its own or in one word with it; any word behind a terminator is an opcode. `Spells` relates the
items that are given to the words that give them. The words tell the items (`Spells.unique`), and how often an option
is mentioned before the terminator (`Spells.countP_mentions`).
-/

namespace DecoderHost.CommandLine

/-! ## Words -/

/-- The name of an option. -/
def ValueOption.name : ValueOption → String
  | arch => "arch"
  | module => "module"
  | config => "config"

/-- The word for an option. -/
def ValueOption.flag (name : ValueOption) : String := "--" ++ name.name

/-- A word is not taken for an option: it starts with no dash, or is a dash alone. -/
def IsPlain (word : String) : Prop := word = "-" ∨ word.toList.head? ≠ some '-'

instance (word : String) : Decidable (IsPlain word) := inferInstanceAs (Decidable (_ ∨ _))

namespace Word

/-- How the words are written that belong to something. -/
inductive Written : Word → String → Prop
  | plain {text : String} (h : IsPlain text) : Written (.plain text) text
  | terminator : Written .terminator "--"
  | apart (name : ValueOption) : Written (.option name none) name.flag
  | attached (name : ValueOption) (value : String) : Written (.option name (some value)) (name.flag ++ "=" ++ value)
  | standardInput : Written .standardInput "--stdin"

/-- A word that makes every command line fail. -/
def Rejected : Word → Prop
  | help | version | flagWithValue | unknown => True
  | _ => False

/-- Behind the first equals sign stands the value. -/
theorem splitValue_attached {name : String} (h : '=' ∉ name.toList) (value : String) :
    splitValue (name.toList ++ '=' :: value.toList) = (name, some value) := by
  have hname : ∀ c ∈ name.toList, decide (c ≠ '=') := fun c hc => decide_eq_true fun hsign => h (hsign ▸ hc)
  have htake : (name.toList ++ '=' :: value.toList).takeWhile (· ≠ '=') = name.toList := by
    rw [List.takeWhile_append_of_pos hname, List.takeWhile_cons_of_neg (by decide), List.append_nil]
  have hdrop : (name.toList ++ '=' :: value.toList).dropWhile (· ≠ '=') = '=' :: value.toList := by
    rw [List.dropWhile_append_of_pos hname, List.dropWhile_cons_of_neg (by decide)]
  unfold splitValue
  simp only [htake, hdrop, String.ofList_toList]

theorem text_of_splitValue_none {text : List Char} {name : String} (h : splitValue text = (name, none)) :
    text = name.toList := by
  unfold splitValue at h
  have happend := List.takeWhile_append_dropWhile (p := (· ≠ '=')) (l := text)
  split at h
  · next hdrop =>
    obtain rfl := congrArg Prod.fst h
    rw [hdrop, List.append_nil] at happend
    rw [String.toList_ofList, happend]
  · cases h

theorem text_of_splitValue_some {text : List Char} {name value : String}
    (h : splitValue text = (name, some value)) : text = name.toList ++ '=' :: value.toList := by
  unfold splitValue at h
  have happend := List.takeWhile_append_dropWhile (p := (· ≠ '=')) (l := text)
  split at h
  · cases h
  · next c rest hdrop =>
    obtain ⟨rfl, hvalue⟩ := Prod.mk.inj h
    obtain rfl := Option.some.inj hvalue
    have hsign : c = '=' := by
      have hhead := List.head?_dropWhile_not (· ≠ '=') text
      rw [hdrop] at hhead
      simpa using hhead
    rw [hdrop, hsign] at happend
    rw [String.toList_ofList, String.toList_ofList, happend]

theorem not_mem_name (name : ValueOption) : '=' ∉ name.name.toList := by
  cases name <;> decide

theorem toList_flag (name : ValueOption) : name.flag.toList = '-' :: '-' :: name.name.toList := by
  unfold ValueOption.flag
  rw [String.toList_append]
  rfl

/-- What is written for a word is taken for it. -/
theorem Written.of_eq {word : Word} {text : String} (h : Written word text) : of text = word := by
  cases h with
  | plain h =>
    rcases h with rfl | h
    · rfl
    · unfold of
      split <;> first | rfl | simp_all
  | terminator => rfl
  | apart name => cases name <;> rfl
  | attached name value =>
    have htext : (name.flag ++ "=" ++ value).toList = '-' :: '-' :: (name.name.toList ++ '=' :: value.toList) := by
      rw [String.toList_append, String.toList_append, toList_flag, List.append_assoc]
      rfl
    have hlong : of (name.flag ++ "=" ++ value) = ofLong (name.name.toList ++ '=' :: value.toList) := by
      unfold of
      rw [htext]
      cases name <;> rfl
    rw [hlong, ofLong, splitValue_attached (not_mem_name name)]
    cases name <;> rfl
  | standardInput => rfl

/-- A name and its value, if there is one, are written as the text that was split into them. -/
theorem written_option {text : String} {rest : List Char} (htext : text.toList = '-' :: '-' :: rest)
    (name : ValueOption) {value : Option String} (h : splitValue rest = (name.name, value)) :
    Written (.option name value) text := by
  cases value with
  | none =>
    have hflag : text = name.flag := String.toList_inj.mp (by rw [htext, text_of_splitValue_none h, toList_flag])
    rw [hflag]
    exact .apart name
  | some value =>
    have hflag : text = name.flag ++ "=" ++ value := by
      apply String.toList_inj.mp
      rw [htext, text_of_splitValue_some h, String.toList_append, String.toList_append, toList_flag, List.append_assoc]
      rfl
    rw [hflag]
    exact .attached name value

theorem written_ofLong {text : String} {rest : List Char} (htext : text.toList = '-' :: '-' :: rest) :
    Written (ofLong rest) text ∨ (ofLong rest).Rejected := by
  unfold ofLong
  split
  · next h => exact .inl (written_option htext .arch h)
  · next h => exact .inl (written_option htext .module h)
  · next h => exact .inl (written_option htext .config h)
  · next value h =>
    cases value with
    | none =>
      have hstdin : text = "--stdin" := String.toList_inj.mp (by rw [htext, text_of_splitValue_none h]; rfl)
      rw [hstdin]
      exact .inl .standardInput
    | some value => exact .inr trivial
  · next value h => cases value <;> exact .inr trivial
  · next value h => cases value <;> exact .inr trivial
  · exact .inr trivial

/-- Every word is one of these, or makes the command line fail. -/
theorem written_of (text : String) : Written (of text) text ∨ (of text).Rejected := by
  unfold of
  split
  · next h =>
    obtain rfl : text = "--" := String.toList_inj.mp h
    exact .inl .terminator
  · next h => exact written_ofLong h
  · exact .inr trivial
  · exact .inr trivial
  · exact .inr trivial
  · next hterminator hlong hhelp hversion hshort =>
    refine .inl (.plain ?_)
    rcases hlist : text.toList with _ | ⟨c, _ | ⟨d, rest⟩⟩
    · simp [IsPlain, hlist]
    · by_cases hc : c = '-'
      · exact .inl (String.toList_inj.mp (by rw [hlist, hc]; rfl))
      · exact .inr (by simp [hlist, hc])
    · refine .inr ?_
      simp only [hlist, List.head?_cons, ne_eq, Option.some.injEq]
      rintro rfl
      exact hshort d rest hlist

theorem written_of_eq {word : Word} {text : String} (h : of text = word) (hword : ¬ word.Rejected) :
    Written word text := by
  subst h
  exact (written_of text).resolve_right hword

end Word

/-! ## Command lines -/

/-- What may be given on a command line. -/
inductive Item where
  | value (name : ValueOption) (value : String)
  | standardInput
  | opcode (text : String)
  deriving DecidableEq

/-- The values that are given to an option, in order. -/
def values (name : ValueOption) (items : List Item) : List String :=
  items.filterMap fun
    | .value other value => if other = name then some value else none
    | _ => none

/-- The opcodes that are given, in order. -/
def opcodes (items : List Item) : List String :=
  items.filterMap fun
    | .opcode text => some text
    | _ => none

/-- The first word for an item. -/
def Item.word : Item → Word
  | .value name _ => .option name none
  | .standardInput => .standardInput
  | .opcode text => .plain text

/-- **What is written.** Words spell items. -/
inductive Spells : List Item → List String → Prop
  | nil : Spells [] []
  | apart {value : String} {items : List Item} {words : List String} (name : ValueOption) (hvalue : IsPlain value)
    (hrest : Spells items words) : Spells (.value name value :: items) (name.flag :: value :: words)
  | attached {items : List Item} {words : List String} (name : ValueOption) (value : String)
    (hrest : Spells items words) : Spells (.value name value :: items) ((name.flag ++ "=" ++ value) :: words)
  | standardInput {items : List Item} {words : List String} (hrest : Spells items words) :
    Spells (.standardInput :: items) ("--stdin" :: words)
  | opcode {text : String} {items : List Item} {words : List String} (htext : IsPlain text)
    (hrest : Spells items words) : Spells (.opcode text :: items) (text :: words)
  | terminated (texts : List String) : Spells (texts.map .opcode) ("--" :: texts)

/-- A word and those that follow it spell items. -/
def Word.Begins (items : List Item) (rest : List String) : Word → Prop
  | plain text => ∃ more, Spells more rest ∧ items = .opcode text :: more
  | terminator => items = rest.map .opcode
  | option name (some value) => ∃ more, Spells more rest ∧ items = .value name value :: more
  | option name none => ∃ value after more, rest = value :: after ∧ IsPlain value ∧ Spells more after ∧
    items = .value name value :: more
  | standardInput => ∃ more, Spells more rest ∧ items = .standardInput :: more
  | help | version | flagWithValue | unknown => False

/-- An option is mentioned in a word, alone or with its value. -/
def Mentions (name : ValueOption) (word : String) : Prop :=
  word = name.flag ∨ (name.flag ++ "=").toList <+: word.toList

instance (name : ValueOption) (word : String) : Decidable (Mentions name word) := inferInstanceAs (Decidable (_ ∨ _))

/-- The words before the terminator, if there is one. -/
def beforeTerminator (words : List String) : List String := words.takeWhile (· ≠ "--")

theorem mentions_iff {name : ValueOption} {word : String} :
    Mentions name word ↔ ∃ value, Word.of word = .option name value := by
  constructor
  · rintro (rfl | ⟨rest, hrest⟩)
    · exact ⟨none, (Word.Written.apart name).of_eq⟩
    · have hword : word = name.flag ++ "=" ++ String.ofList rest := by
        apply String.toList_inj.mp
        rw [String.toList_append, String.toList_ofList, hrest]
      rw [hword]
      exact ⟨_, (Word.Written.attached name _).of_eq⟩
  · rintro ⟨value, hof⟩
    cases Word.written_of_eq hof id with
    | apart => exact .inl rfl
    | attached name value => exact .inr ⟨value.toList, String.toList_append.symm⟩

theorem eq_stdin_iff {word : String} : word = "--stdin" ↔ Word.of word = .standardInput := by
  constructor
  · rintro rfl
    rfl
  · intro hof
    cases Word.written_of_eq hof id
    rfl

/-- Only a terminator ends the words before it. -/
theorem beforeTerminator_cons {word : String} (h : Word.of word ≠ .terminator) (rest : List String) :
    beforeTerminator (word :: rest) = word :: beforeTerminator rest := by
  refine List.takeWhile_cons_of_pos (decide_eq_true ?_)
  rintro rfl
  exact h rfl

/-- What words spell is settled by what the first of them is. -/
theorem spells_cons_iff {items : List Item} {word : String} {rest : List String} :
    Spells items (word :: rest) ↔ (Word.of word).Begins items rest := by
  constructor
  · intro h
    cases h with
    | apart name hvalue hrest =>
      rw [(Word.Written.apart name).of_eq]
      exact ⟨_, _, _, rfl, hvalue, hrest, rfl⟩
    | attached name value hrest =>
      rw [(Word.Written.attached name value).of_eq]
      exact ⟨_, hrest, rfl⟩
    | standardInput hrest => exact ⟨_, hrest, rfl⟩
    | opcode htext hrest =>
      rw [(Word.Written.plain htext).of_eq]
      exact ⟨_, hrest, rfl⟩
    | terminated => rfl
  · intro h
    rcases Word.written_of word with hwritten | hrejected
    · generalize Word.of word = w at h hwritten
      cases hwritten with
      | plain htext =>
        obtain ⟨more, hmore, rfl⟩ := h
        exact .opcode htext hmore
      | terminator =>
        obtain rfl : items = _ := h
        exact .terminated rest
      | apart name =>
        obtain ⟨value, after, more, rfl, hvalue, hmore, rfl⟩ := h
        exact .apart name hvalue hmore
      | attached name value =>
        obtain ⟨more, hmore, rfl⟩ := h
        exact .attached name value hmore
      | standardInput =>
        obtain ⟨more, hmore, rfl⟩ := h
        exact .standardInput hmore
    · generalize Word.of word = w at h hrejected
      cases w <;> first | exact h.elim | exact hrejected.elim

namespace Spells

variable {items items' : List Item} {words : List String}

/-- Words tell which items they spell. -/
theorem unique (h : Spells items words) (h' : Spells items' words) : items' = items := by
  induction h generalizing items' with
  | nil =>
    cases h'
    rfl
  | apart name hvalue hrest ih =>
    rw [spells_cons_iff, (Word.Written.apart name).of_eq] at h'
    obtain ⟨value, after, more, heq, -, hmore, rfl⟩ := h'
    obtain ⟨rfl, rfl⟩ := List.cons.inj heq
    rw [ih hmore]
  | attached name value hrest ih =>
    rw [spells_cons_iff, (Word.Written.attached name value).of_eq] at h'
    obtain ⟨more, hmore, rfl⟩ := h'
    rw [ih hmore]
  | standardInput hrest ih =>
    obtain ⟨more, hmore, rfl⟩ := spells_cons_iff.mp h'
    rw [ih hmore]
  | opcode htext hrest ih =>
    rw [spells_cons_iff, (Word.Written.plain htext).of_eq] at h'
    obtain ⟨more, hmore, rfl⟩ := h'
    rw [ih hmore]
  | terminated texts => exact spells_cons_iff.mp h'

/-- The opcodes are among the words. -/
theorem opcodes_sublist (h : Spells items words) : (opcodes items).Sublist words := by
  induction h with
  | nil => exact .slnil
  | apart name hvalue hrest ih => exact (ih.cons _).cons _
  | attached name value hrest ih => exact ih.cons _
  | standardInput hrest ih => exact ih.cons _
  | opcode htext hrest ih => exact ih.cons_cons _
  | terminated texts =>
    have hopcodes : opcodes (texts.map .opcode) = texts := by
      rw [opcodes, List.filterMap_map]
      exact List.filterMap_some
    rw [hopcodes]
    exact List.sublist_cons_self ..

/-- Words before the terminator count as the items for which they are the first words, if no plain word counts and an
option counts with its value as it does without. -/
theorem countP_word (h : Spells items words) {p : Word → Bool} (hplain : ∀ text, p (.plain text) = false)
    (hoption : ∀ name value, p (.option name (some value)) = p (.option name none)) :
    (beforeTerminator words).countP (fun word => p (.of word)) = items.countP fun item => p item.word := by
  have hcons {word : String} {w : Word} (hof : Word.of word = w) (hw : w ≠ .terminator) (rest : List String) :
      (beforeTerminator (word :: rest)).countP (fun word => p (.of word)) =
        (beforeTerminator rest).countP (fun word => p (.of word)) + if p w then 1 else 0 := by
    rw [beforeTerminator_cons (hof ▸ hw), List.countP_cons, hof]
  induction h with
  | nil => rfl
  | apart name hvalue hrest ih =>
    rw [hcons (Word.Written.apart name).of_eq (by simp), hcons (Word.Written.plain hvalue).of_eq (by simp), hplain, ih,
      List.countP_cons]
    rfl
  | attached name value hrest ih =>
    rw [hcons (Word.Written.attached name value).of_eq (by simp), hoption, ih, List.countP_cons]
    rfl
  | standardInput hrest ih =>
    rw [hcons Word.Written.standardInput.of_eq (by simp), ih, List.countP_cons]
    rfl
  | opcode htext hrest ih =>
    rw [hcons (Word.Written.plain htext).of_eq (by simp), ih, List.countP_cons]
    rfl
  | terminated texts => simp [beforeTerminator, Item.word, hplain, List.countP_map, Function.comp_def]

/-- An option is mentioned before the terminator as often as it is given a value. -/
theorem countP_mentions (h : Spells items words) (name : ValueOption) :
    (beforeTerminator words).countP (Mentions name) = (values name items).length := by
  let p : Word → Bool
    | .option other _ => other = name
    | _ => false
  have hmentions (word : String) : decide (Mentions name word) = p (.of word) := by
    rw [Bool.eq_iff_iff, decide_eq_true_eq, mentions_iff]
    cases Word.of word <;> simp [p]
  simp only [hmentions]
  rw [h.countP_word (fun _ => rfl) (fun _ _ => rfl), values, List.length_filterMap_eq_countP]
  refine List.countP_congr fun item _ => ?_
  cases item with
  | value other value => by_cases hname : other = name <;> simp [Item.word, p, hname]
  | standardInput | opcode => simp [Item.word, p]

/-- Standard input is asked for before the terminator as often as it is given. -/
theorem count_stdin (h : Spells items words) :
    (beforeTerminator words).count "--stdin" = items.count .standardInput := by
  have hstdin (word : String) : (word == "--stdin") = decide (Word.of word = .standardInput) := by
    rw [Bool.eq_iff_iff, beq_iff_eq, decide_eq_true_eq, eq_stdin_iff]
  have hcount := h.countP_word (p := fun w => decide (w = .standardInput)) (by simp) (by simp)
  unfold List.count
  simp only [hstdin]
  rw [hcount]
  refine List.countP_congr fun item _ => ?_
  cases item <;> simp [Item.word]

end Spells

end DecoderHost.CommandLine

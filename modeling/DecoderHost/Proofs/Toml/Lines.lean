import DecoderHost.Proofs.Toml.Values

/-!
# Documents are read as they are written

A line does something to the draft of the document: a header opens a table, a setting defines a key. Reading the
lines of a text does to the draft what the lines do, one after the other, however each of them is written.
-/

namespace DecoderHost.Toml

open Text (LineEnd)

/-! ## Blanks and line ends -/

theorem skipSpace_blanks {blanks : List Char} (h : IsBlanks blanks) (rest : List Char) :
    skipSpace (blanks ++ rest) = skipSpace rest :=
  List.dropWhile_append_of_pos fun c hc => by rcases h c hc with rfl | rfl <;> rfl

theorem skipSpace_of_not_space {c : Char} (h : isSpace c = false) (rest : List Char) :
    skipSpace (c :: rest) = c :: rest :=
  List.dropWhile_cons_of_neg (by simp [h])

theorem skipSpace_lineEnd (lineEnd : LineEnd) (rest : List Char) :
    skipSpace (lineEnd.text ++ rest) = lineEnd.text ++ rest := by
  cases lineEnd <;> rfl

theorem endOfLine?_blanks {after : List Char} (h : IsBlanks after) (lineEnd : LineEnd) (rest : List Char) :
    endOfLine? (after ++ (lineEnd.text ++ rest)) = some rest := by
  rw [endOfLine?, skipSpace_blanks h, skipSpace_lineEnd]
  cases lineEnd <;> rfl

theorem follows_blanks {after : List Char} (h : IsBlanks after) (lineEnd : LineEnd) (rest : List Char) :
    Follows (after ++ (lineEnd.text ++ rest)) := by
  intro c hc
  cases after with
  | nil => cases lineEnd <;> cases hc <;> decide
  | cons d after =>
    cases hc
    rcases h c List.mem_cons_self with rfl | rfl <;> decide

/-! ## Keys -/

theorem IsBareKey.head {key : String} (h : IsBareKey key) {c : Char} {rest left : List Char}
    (heq : key.toList ++ rest = c :: left) : isBare c = true := by
  rcases List.append_eq_cons_iff.mp heq with ⟨hnil, -⟩ | ⟨chars, hkey, -⟩
  · exact absurd hnil h.ne_nil
  · exact h.bare c (hkey ▸ List.mem_cons_self)

theorem isSpace_of_isBare {c : Char} (h : isBare c = true) : isSpace c = false := by
  have hblank : c ≠ ' ' := ne_of_class h (by decide)
  have htab : c ≠ '\t' := ne_of_class h (by decide)
  simp [isSpace, hblank, htab]

/-- A bare key ends where a character comes that is none of its own. -/
theorem IsBareKey.readKeyPart {key : String} (h : IsBareKey key) {rest : List Char}
    (hrest : ∀ c ∈ rest.head?, isBare c = false) : readKeyPart (key.toList ++ rest) = some (key, rest) := by
  have htake : (key.toList ++ rest).takeWhile isBare = key.toList := by
    rw [List.takeWhile_append_of_pos h.bare]
    cases rest with
    | nil => simp
    | cons c rest => simp [hrest c rfl]
  have hdrop : (key.toList ++ rest).dropWhile isBare = rest := by
    rw [List.dropWhile_append_of_pos h.bare]
    cases rest with
    | nil => rfl
    | cons c rest => simp [hrest c rfl]
  rw [readKeyPart.eq_def]
  split
  · next heq => exact absurd (h.head heq) (by decide)
  · next heq => exact absurd (h.head heq) (by decide)
  · simp [htake, hdrop, h.ne_nil]

theorem IsBareKey.skipSpace {key : String} (h : IsBareKey key) (rest : List Char) :
    skipSpace (key.toList ++ rest) = key.toList ++ rest := by
  cases heq : key.toList ++ rest with
  | nil => rfl
  | cons c left => exact skipSpace_of_not_space (isSpace_of_isBare (h.head heq)) left

/-- The character behind a dotted key. -/
structure Closes (stop : Char) : Prop where
  not_bare : isBare stop = false
  not_space : isSpace stop = false
  not_dot : stop ≠ '.'

theorem readKeyParts_path {path : List String} (hne : path ≠ []) (hpath : ∀ key ∈ path, IsBareKey key)
    {blanks : List Char} (hblanks : IsBlanks blanks) {stop : Char} (hstop : Closes stop) (rest : List Char)
    {steps : Nat} (hsteps : path.length ≤ steps) :
    readKeyParts steps (['.'].intercalate (path.map String.toList) ++ (blanks ++ stop :: rest)) =
      some (path, stop :: rest) := by
  induction path generalizing steps with
  | nil => exact absurd rfl hne
  | cons key path ih =>
    obtain ⟨hkey, hpath⟩ := List.forall_mem_cons.mp hpath
    obtain ⟨steps, rfl⟩ := Nat.exists_eq_succ_of_ne_zero (Nat.ne_of_gt (Nat.lt_of_lt_of_le (Nat.succ_pos _) hsteps))
    cases path with
    | nil =>
      have hend : ∀ c ∈ (blanks ++ stop :: rest).head?, isBare c = false := by
        intro c hc
        cases blanks with
        | nil => cases hc; exact hstop.not_bare
        | cons d blanks =>
          cases hc
          rcases hblanks c List.mem_cons_self with rfl | rfl <;> decide
      have hskip : Toml.skipSpace (blanks ++ stop :: rest) = stop :: rest := by
        rw [skipSpace_blanks hblanks, skipSpace_of_not_space hstop.not_space]
      simp [readKeyParts, hkey.skipSpace, hkey.readKeyPart hend, hskip, hstop.not_dot]
    | cons next path =>
      have hlength : (next :: path).length ≤ steps := by simpa using hsteps
      have hrest := ih (by simp) hpath hlength
      have hskip : ∀ left : List Char, Toml.skipSpace ('.' :: left) = '.' :: left :=
        fun left => skipSpace_of_not_space (by decide) left
      have hdot : ∀ left : List Char, ∀ c ∈ ('.' :: left).head?, isBare c = false := by
        rintro left c ⟨⟩
        decide
      simp only [List.map_cons] at hrest ⊢
      rw [List.intercalate_cons_cons, List.append_assoc, List.append_assoc, List.singleton_append]
      simp [readKeyParts, hkey.skipSpace, hkey.readKeyPart (hdot _), hskip, hrest]

theorem IsPath.readKey {path : List String} (h : IsPath path) {blanks : List Char} (hblanks : IsBlanks blanks)
    {stop : Char} (hstop : Closes stop) (rest : List Char) :
    readKey (['.'].intercalate (path.map String.toList) ++ (blanks ++ stop :: rest)) = some (path, stop :: rest) :=
  readKeyParts_path h.ne_nil h.isBareKey hblanks hstop rest (Nat.le_pred_of_lt h.length_lt)

theorem IsBareKey.readKey {key : String} (h : IsBareKey key) {blanks : List Char} (hblanks : IsBlanks blanks)
    {stop : Char} (hstop : Closes stop) (rest : List Char) :
    readKey (key.toList ++ (blanks ++ stop :: rest)) = some ([key], stop :: rest) := by
  have hpath : IsPath [key] := ⟨by simp, by simp [depthLimit], by simpa using h⟩
  simpa using hpath.readKey hblanks hstop rest

/-! ## Lines -/

/-- What a line does to the draft of the document. -/
def Line.apply (draft : Draft) : Line → Option Draft
  | blank => some draft
  | header path => draft.openTable path
  | setting key value => draft.define [key] value

theorem IsPath.head {path : List String} (h : IsPath path) {c : Char} {rest left : List Char}
    (heq : ['.'].intercalate (path.map String.toList) ++ rest = c :: left) : isBare c = true := by
  obtain ⟨hne, -, hkeys⟩ := h
  match path with
  | [] => exact absurd rfl hne
  | [key] =>
    rw [List.map_cons, List.map_nil, List.intercalate_singleton] at heq
    exact (hkeys key List.mem_cons_self).head heq
  | key :: next :: path =>
    rw [List.map_cons, List.map_cons, List.intercalate_cons_cons, List.append_assoc, List.append_assoc] at heq
    exact (hkeys key List.mem_cons_self).head heq

theorem readLine_lineEnd (lineEnd : LineEnd) (steps : Nat) (draft : Draft) (rest : List Char) :
    readLine steps draft (lineEnd.text ++ rest) = some (draft, rest) := by
  cases lineEnd <;> rfl

theorem readLine_header {path : List String} (hpath : IsPath path) {after : List Char} (hafter : IsBlanks after)
    (lineEnd : LineEnd) (steps : Nat) (draft : Draft) (rest : List Char) :
    readLine steps draft ('[' :: (['.'].intercalate (path.map String.toList) ++
      ']' :: (after ++ (lineEnd.text ++ rest)))) = (draft.openTable path).map fun draft => (draft, rest) := by
  have hnone : IsBlanks [] := by simp [IsBlanks]
  have hstop : Closes ']' := ⟨by decide, by decide, by decide⟩
  have hkey := hpath.readKey hnone hstop (after ++ (lineEnd.text ++ rest))
  rw [List.nil_append] at hkey
  rw [readLine.eq_def]
  split
  · next heq => exact absurd (hpath.head (List.cons.inj heq).2) (by decide)
  · next hdouble heq =>
    obtain rfl := (List.cons.inj heq).2
    simp only [Option.bind_eq_bind, hkey, Option.bind_some, endOfLine?_blanks hafter]
    cases draft.openTable path <;> rfl
  all_goals simp_all

/-- No value begins with a blank. -/
theorem SpellsValue.skipSpace {word : List Char} {value : Value} (h : SpellsValue word value) (rest : List Char) :
    skipSpace (word ++ rest) = word ++ rest := by
  cases h with
  | boolean truth => cases truth <;> rfl
  | integer n =>
    obtain ⟨d, digits, hdigits, hd, -⟩ := exists_toDigits n
    have hspace : isSpace d = false := isSpace_of_isBare (by simp [isBare, hd])
    rw [hdigits]
    exact skipSpace_of_not_space hspace _
  | string => rfl

theorem readLine_setting {key : String} (hkey : IsBareKey key) {left right word after : List Char} {value : Value}
    (hleft : IsBlanks left) (hright : IsBlanks right) (hvalue : SpellsValue word value) (hafter : IsBlanks after)
    (lineEnd : LineEnd) (steps : Nat) (draft : Draft) (rest : List Char) :
    readLine (steps + 1) draft (key.toList ++ (left ++
      '=' :: (right ++ (word ++ (after ++ (lineEnd.text ++ rest)))))) =
        (draft.define [key] value).map fun draft => (draft, rest) := by
  have hstop : Closes '=' := ⟨by decide, by decide, by decide⟩
  have hname := hkey.readKey hleft hstop (right ++ (word ++ (after ++ (lineEnd.text ++ rest))))
  have hread := hvalue.readValue (follows_blanks hafter lineEnd rest) steps 0
  have hskip : skipSpace (right ++ (word ++ (after ++ (lineEnd.text ++ rest)))) =
      word ++ (after ++ (lineEnd.text ++ rest)) := by
    rw [skipSpace_blanks hright, hvalue.skipSpace]
  rw [readLine.eq_def]
  -- No other kind of line begins with a character of a bare key.
  split
  · next heq => exact absurd (hkey.head heq) (by decide)
  · next heq => exact absurd (hkey.head heq) (by decide)
  · next heq => exact absurd (hkey.head heq) (by decide)
  · next heq => exact absurd (hkey.head heq) (by decide)
  · next heq => exact absurd (hkey.head heq) (by decide)
  · simp only [Option.bind_eq_bind, hname, Option.bind_some, hskip, hread, endOfLine?_blanks hafter]
    cases draft.define [key] value <;> rfl

/-- **One line.** However a line is written, reading it does to the draft what the line does. -/
theorem SpellsLine.readLine {text : List Char} {line : Line} (h : SpellsLine text line) (steps : Nat) (draft : Draft)
    (rest : List Char) : skipSpace (text ++ rest) ≠ [] ∧
      readLine (steps + 1) draft (skipSpace (text ++ rest)) = (line.apply draft).map fun draft => (draft, rest) := by
  cases h with
  | blank hbefore lineEnd =>
    rw [List.append_assoc, skipSpace_blanks hbefore, skipSpace_lineEnd, readLine_lineEnd]
    exact ⟨by cases lineEnd <;> simp [LineEnd.text], rfl⟩
  | header hbefore hpath hafter lineEnd =>
    simp only [List.append_assoc, List.cons_append]
    rw [skipSpace_blanks hbefore, skipSpace_of_not_space (by decide), readLine_header hpath hafter]
    exact ⟨by simp, rfl⟩
  | setting key hbefore hkey hleft hright hvalue hafter lineEnd =>
    simp only [List.append_assoc, List.cons_append]
    rw [skipSpace_blanks hbefore, hkey.skipSpace, readLine_setting hkey hleft hright hvalue hafter]
    exact ⟨by simp [hkey.ne_nil], rfl⟩

/-- **All lines.** Reading a text does to the draft what its lines do in turn. -/
theorem SpellsLines.readLines {text : List Char} {lines : List Line} (h : SpellsLines text lines) (steps : Nat)
    (draft : Draft) {bound : Nat} (hbound : lines.length < bound) :
    readLines (steps + 1) bound draft text = lines.foldlM Line.apply draft := by
  induction h generalizing draft bound with
  | nil =>
    obtain ⟨bound, rfl⟩ := Nat.exists_eq_succ_of_ne_zero (Nat.ne_of_gt hbound)
    rfl
  | @cons text rest line lines hline _ ih =>
    obtain ⟨bound, rfl⟩ := Nat.exists_eq_succ_of_ne_zero (Nat.ne_of_gt (Nat.lt_of_le_of_lt (Nat.zero_le _) hbound))
    obtain ⟨hne, hread⟩ := hline.readLine steps draft rest
    have hrest : ∀ draft, Toml.readLines (steps + 1) bound draft rest = lines.foldlM Line.apply draft :=
      fun draft => ih draft (Nat.lt_of_succ_lt_succ hbound)
    rw [readLines.eq_def, List.foldlM_cons]
    dsimp only
    split
    · next heq => exact absurd heq hne
    · rw [hread]
      cases line.apply draft <;> simp [hrest]

/-! ## Documents -/

theorem head_blanks {blanks text : List Char} (h : IsBlanks blanks)
    (htext : ∃ c rest, text = c :: rest ∧ c ≠ '\uFEFF') :
    ∃ c rest, blanks ++ text = c :: rest ∧ c ≠ '\uFEFF' := by
  cases blanks with
  | nil => exact htext
  | cons c blanks =>
    refine ⟨c, blanks ++ text, rfl, ?_⟩
    rcases h c List.mem_cons_self with rfl | rfl <;> decide

/-- A line has characters, the first of which is no byte-order mark. -/
theorem SpellsLine.head {text : List Char} {line : Line} (h : SpellsLine text line) :
    ∃ c rest, text = c :: rest ∧ c ≠ '\uFEFF' := by
  cases h with
  | blank hbefore lineEnd => exact head_blanks hbefore (by cases lineEnd <;> exact ⟨_, _, rfl, by decide⟩)
  | header hbefore => exact head_blanks hbefore ⟨_, _, rfl, by decide⟩
  | setting key hbefore hkey =>
    refine head_blanks hbefore ?_
    cases hchars : key.toList with
    | nil => exact absurd hchars hkey.ne_nil
    | cons c chars =>
      have hc := hkey.bare c (hchars ▸ List.mem_cons_self)
      exact ⟨c, _, rfl, ne_of_class hc (by decide)⟩

theorem SpellsLines.head {text rest : List Char} {lines : List Line} {c : Char} (h : SpellsLines text lines)
    (htext : text = c :: rest) : c ≠ '\uFEFF' := by
  cases h with
  | nil => cases htext
  | cons hline =>
    obtain ⟨d, left, rfl, hd⟩ := hline.head
    cases htext
    exact hd

theorem SpellsLines.length_le {text : List Char} {lines : List Line} (h : SpellsLines text lines) :
    lines.length ≤ text.length := by
  induction h with
  | nil => rfl
  | cons hline _ ih =>
    obtain ⟨c, rest, rfl, -⟩ := hline.head
    simp only [List.length_cons, List.length_append]
    omega

/-- **A whole document.** A text stands for what its lines make of the empty draft. -/
theorem SpellsLines.parse {text : String} {lines : List Line} (h : SpellsLines text.toList lines) :
    parse text = (lines.foldlM Line.apply {}).bind fun draft => draft.settle.map Node.entryValues := by
  have hread := h.readLines text.toList.length {} (Nat.lt_succ_of_le h.length_le)
  unfold Toml.parse
  dsimp only
  split
  · next htext => exact absurd rfl (h.head htext)
  · rw [hread]
    cases lines.foldlM Line.apply {} with
    | none => rfl
    | some draft =>
      simp only [Option.bind_eq_bind, Option.bind_some]
      cases draft.settle <;> rfl

end DecoderHost.Toml

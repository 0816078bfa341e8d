import DecoderHost.Proofs.Literal.RoundTrip

/-!
# Carriage returns do not matter

A text is read as the parts between its line feeds (`decode_eq`). A carriage return that the lines lose at their ends
is not missed: it would not have been in the inside of a slice, which ends with a brace, and it neither makes a byte
string a text nor keeps it from being one. So a text may as well have a carriage return before every line feed,
whatever it has there already (`decode_withReturns`).
-/

namespace DecoderHost.Literal

open Text.Utf8 (WellFormed)

/-! ## The slice of a line -/

/-- The first byte slice of a text is closed and has this inside. -/
inductive Holds : List Char → List Char → Prop
  | mk {front body rest : List Char} (hfront : OpensNone front) (hbody : '\x7d' ∉ body) :
    Holds (front ++ (opening ++ (body ++ '\x7d' :: rest))) body

theorem opensNone_nil : OpensNone [] := by decide

theorem OpensNone.cons {c : Char} {text rest : List Char} (h : OpensNone text)
    (hstart : ¬ opening <+: c :: (text ++ rest)) : OpensNone (c :: text) := by
  intro hwithin
  rcases List.infix_cons_iff.mp hwithin with hwithin | hwithin
  · exact hstart (hwithin.trans (List.prefix_append (c :: text) rest))
  · exact h hwithin

theorem afterOpening?_eq_some {text after : List Char} (h : afterOpening? text = some after) :
    ∃ front, OpensNone front ∧ text = front ++ (opening ++ after) := by
  induction text with
  | nil => simp [afterOpening?] at h
  | cons c text ih =>
    by_cases hstart : opening <+: c :: text
    · obtain ⟨rest, hrest⟩ := hstart
      have hafter : afterOpening? (c :: text) = some rest := by
        rw [← hrest]
        exact afterOpening?_append opensNone_nil rest
      obtain rfl : rest = after := Option.some.inj (hafter.symm.trans h)
      exact ⟨[], opensNone_nil, hrest.symm⟩
    · rw [afterOpening?_cons hstart] at h
      obtain ⟨front, hfront, rfl⟩ := ih h
      exact ⟨c :: front, hfront.cons hstart, rfl⟩

theorem beforeClosing?_eq_some {text body : List Char} (h : beforeClosing? text = some body) :
    '\x7d' ∉ body ∧ ∃ rest, text = body ++ '\x7d' :: rest := by
  unfold beforeClosing? at h
  split_ifs at h with hclosed
  obtain ⟨front, rest, rfl, hfront⟩ := List.eq_append_cons_of_mem hclosed
  have hbody := beforeClosing?_append hfront rest
  rw [beforeClosing?, if_pos hclosed] at hbody
  obtain rfl : front = body := Option.some.inj (hbody.symm.trans h)
  exact ⟨hfront, rest, rfl⟩

/-- **The inside of the first slice is found, if that is closed.** -/
theorem body?_eq_some_iff {text body : List Char} : body? text = some body ↔ Holds text body := by
  constructor
  · intro h
    obtain ⟨after, hafter, hbody⟩ := Option.bind_eq_some_iff.mp h
    obtain ⟨front, hfront, rfl⟩ := afterOpening?_eq_some hafter
    obtain ⟨hopen, rest, rfl⟩ := beforeClosing?_eq_some hbody
    exact .mk hfront hopen
  · rintro ⟨hfront, hbody⟩
    rw [body?, afterOpening?_append hfront, Option.bind_some, beforeClosing?_append hbody]

/-! ## A carriage return at the end of a line -/

theorem Holds.append {text body : List Char} (h : Holds text body) (more : List Char) : Holds (text ++ more) body := by
  obtain ⟨hfront, hbody⟩ := h
  rw [List.append_assoc, List.append_assoc, List.append_assoc, List.cons_append]
  exact .mk hfront hbody

/-- What follows the slice goes on behind the brace, so that it can do without a last character of another kind. -/
theorem Holds.of_append {text body : List Char} {c : Char} (hc : c ≠ '\x7d') (h : Holds (text ++ [c]) body) :
    Holds text body := by
  generalize hwhole : text ++ [c] = whole at h
  cases h with
  | @mk front _ rest hfront hbody =>
    rcases List.eq_nil_or_concat' rest with rfl | ⟨rest, last, rfl⟩
    · rw [← List.append_assoc, ← List.append_assoc] at hwhole
      exact absurd (List.append_singleton_inj.mp hwhole).2 hc
    · rw [← List.cons_append, ← List.append_assoc, ← List.append_assoc, ← List.append_assoc] at hwhole
      rw [(List.append_singleton_inj.mp hwhole).1, List.append_assoc, List.append_assoc]
      exact .mk hfront hbody

theorem body?_append_return (text : List Char) : body? (text ++ ['\r']) = body? text := by
  apply Option.ext
  intro body
  rw [body?_eq_some_iff, body?_eq_some_iff]
  exact ⟨Holds.of_append (by decide), fun h => h.append _⟩

theorem decode?_append_return (line : List UInt8) :
    Text.Utf8.decode? (line ++ [13]) = (Text.Utf8.decode? line).map (· ++ ['\r']) := by
  cases hdecode : Text.Utf8.decode? line with
  | some text =>
    rw [Option.map_some, Text.Utf8.decode?_eq_some_iff, Text.Utf8.encode_append,
      Text.Utf8.decode?_eq_some_iff.mp hdecode]
    rfl
  | none =>
    rw [Option.map_none, Text.Utf8.decode?_eq_none_iff]
    rintro ⟨text, htext⟩
    obtain ⟨shown, -, hshown⟩ := chomp_encode text
    rw [htext, List.reverse_append, List.reverse_singleton, List.singleton_append, chomp, List.reverse_reverse]
      at hshown
    exact Text.Utf8.decode?_eq_none_iff.mp hdecode ⟨shown, hshown.symm⟩

/-- A carriage return at the end of a line changes nothing. -/
theorem decodeLine_append_return (number : Nat) (line : List UInt8) :
    decodeLine number (line ++ [13]) = decodeLine number line := by
  rw [decodeLine, decodeLine, decode?_append_return]
  cases Text.Utf8.decode? line with
  | none => rfl
  | some text => simp only [Option.map_some, body?_append_return]

theorem decodeLine_chomp (number : Nat) (begun : List UInt8) :
    decodeLine number (chomp begun) = decodeLine number begun.reverse := by
  unfold chomp
  split
  · rw [List.reverse_cons, decodeLine_append_return]
  · rfl

/-! ## The parts between line feeds -/

theorem decodeLine_nil (number : Nat) : decodeLine number [] = .ok [] :=
  decodeLine_plain opensNone_nil (.inl rfl) number

theorem decodeLines_congr_head {number : Nat} {line line' : List UInt8} {rest rest' : List (List UInt8)}
    (hline : decodeLine number line = decodeLine number line')
    (hrest : decodeLines (number + 1) rest = decodeLines (number + 1) rest') :
    decodeLines number (line :: rest) = decodeLines number (line' :: rest') := by
  rw [decodeLines, decodeLines, hline, hrest]

theorem decodeLines_linesFrom (number : Nat) (begun text : List UInt8) :
    decodeLines number (linesFrom begun text) = decodeLines number (text.splitOnPPrepend (· == 10) begun) := by
  induction text generalizing number begun with
  | nil =>
    rw [List.splitOnPPrepend_nil, linesFrom]
    cases begun with
    | nil =>
      -- What follows the last line feed is a part even if there is nothing.
      exact (decodeLines_cons (decodeLine_nil number) []).symm
    | cons b begun => rfl
  | cons b text ih =>
    rw [linesFrom, List.splitOnPPrepend_cons_eq_if]
    by_cases hb : b = 10
    · rw [if_pos hb, if_pos (beq_iff_eq.mpr hb), List.splitOnP_eq_splitOnPPrepend]
      exact decodeLines_congr_head (decodeLine_chomp number begun) (ih (number + 1) [])
    · rw [if_neg hb, if_neg (mt beq_iff_eq.mp hb), ih]

/-- **A text is read as the parts between its line feeds.** -/
theorem decode_eq (text : List UInt8) : decode text = decodeLines 1 (text.splitOn 10) := by
  rw [decode, lines, decodeLines_linesFrom, List.splitOn_eq_splitOnP, List.splitOnP_eq_splitOnPPrepend]

/-! ## Carriage returns before line feeds -/

/-- A text with a carriage return put before every line feed. -/
def withReturns (text : List UInt8) : List UInt8 := text.flatMap fun b => if b = 10 then [13, 10] else [b]

theorem decodeLines_withReturns (number : Nat) (begun text : List UInt8) :
    decodeLines number ((withReturns text).splitOnPPrepend (· == 10) begun) =
      decodeLines number (text.splitOnPPrepend (· == 10) begun) := by
  induction text generalizing number begun with
  | nil => rfl
  | cons b text ih =>
    rw [withReturns, List.flatMap_cons, ← withReturns, List.splitOnPPrepend_cons_eq_if]
    by_cases hb : b = 10
    · rw [if_pos hb, if_pos (beq_iff_eq.mpr hb), List.cons_append, List.singleton_append,
        List.splitOnPPrepend_cons_neg (by decide), List.splitOnPPrepend_cons_pos (by decide),
        List.splitOnP_eq_splitOnPPrepend, List.splitOnP_eq_splitOnPPrepend, List.reverse_cons]
      exact decodeLines_congr_head (decodeLine_append_return number begun.reverse) (ih (number + 1) [])
    · rw [if_neg hb, if_neg (mt beq_iff_eq.mp hb), List.singleton_append,
        List.splitOnPPrepend_cons_neg (by simpa using hb), ih]

/-- **Carriage returns before line feeds make no difference**, neither to the bytes nor to the error. -/
theorem decode_withReturns (text : List UInt8) : decode (withReturns text) = decode text := by
  have h := decodeLines_withReturns 1 [] text
  rwa [← List.splitOnP_eq_splitOnPPrepend, ← List.splitOnP_eq_splitOnPPrepend, ← List.splitOn_eq_splitOnP,
    ← List.splitOn_eq_splitOnP, ← decode_eq, ← decode_eq] at h

end DecoderHost.Literal

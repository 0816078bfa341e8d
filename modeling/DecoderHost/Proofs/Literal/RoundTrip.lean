import DecoderHost.Proofs.Hex.Digits
import DecoderHost.Proofs.Literal.Written

/-!
# Byte slices are read as they are written

Reading takes a text apart in steps: lines, the first slice of a line, its inside up to the first brace,
elements, digits, bytes. Each of them is the inverse of a step of writing, and `decode_written` puts them
together. The digits of all elements are joined before any is read, so that one element with a digit too few
would shift all bytes after it; `Pair` says that each comes to exactly two.
-/

namespace DecoderHost.Literal

open Hex (Pair)
open Text (Denotes LineEnd)

/-! ## Elements -/

theorem Spells.pair {digits : List Char} {byte : UInt8} (h : Spells digits byte) :
    Pair (match Text.Utf8.encode digits with | [digit] => [48, digit] | digits => digits) byte := by
  cases h with
  | short hdigit hbyte =>
    rw [Text.Utf8.encode_cons, Text.Utf8.utf8EncodeChar_of_lt hdigit.spec.1]
    exact .mk (h := 0) rfl hdigit.spec.2.2.2 (by omega)
  | full hhigh hlow hbyte =>
    rw [Text.Utf8.encode_cons, Text.Utf8.encode_cons, Text.Utf8.utf8EncodeChar_of_lt hhigh.spec.1,
      Text.Utf8.utf8EncodeChar_of_lt hlow.spec.1]
    exact .mk hhigh.spec.2.2.2 hlow.spec.2.2.2 hbyte

theorem dropWhile_padding {padding : List Char} (h : IsPadding padding) (text : List Char) :
    (padding ++ text).dropWhile Text.isBlank = text.dropWhile Text.isBlank :=
  List.dropWhile_append_of_pos fun c hc => (h c hc).1

theorem trim_padded {before after : List Char} (hbefore : IsPadding before) (hafter : IsPadding after)
    {first last : Char} (hfirst : Text.isBlank first = false) (hlast : Text.isBlank last = false)
    (middle : List Char) :
    Text.trim (before ++ (first :: (middle ++ [last]) ++ after)) = first :: (middle ++ [last]) := by
  have hreverse : IsPadding after.reverse := fun c hc => hafter c (List.mem_reverse.mp hc)
  rw [Text.trim, dropWhile_padding hbefore, List.cons_append, List.dropWhile_cons_of_neg (by simp [hfirst]),
    ← List.cons_append, List.reverse_append, dropWhile_padding hreverse]
  simp [List.dropWhile_cons_of_neg, hlast]

theorem Spells.last_not_blank {digits : List Char} {byte : UInt8} (h : Spells digits byte) :
    ∃ middle last, digits = middle ++ [last] ∧ Text.isBlank last = false := by
  cases h with
  | short hdigit _ => exact ⟨[], _, rfl, hdigit.spec.2.1⟩
  | full hhigh hlow _ => exact ⟨[_], _, rfl, hlow.spec.2.1⟩

theorem Element.trim_text (e : Element) : Text.trim e.text = '0' :: 'x' :: e.digits := by
  obtain ⟨middle, last, hdigits, hblank⟩ := e.spells.last_not_blank
  have hzero : Text.isBlank '0' = false := rfl
  rw [Element.text, hdigits]
  simpa using trim_padded e.before_padding e.after_padding hzero hblank ('x' :: middle)

/-- An element comes to one pair of digits. -/
theorem Element.pair (e : Element) : Pair (elementDigits e.text) e.byte := by
  rw [elementDigits, e.trim_text]
  exact e.spells.pair

theorem Spells.denotes {digits : List Char} {byte : UInt8} (h : Spells digits byte) {c : Char}
    (hc : c ∈ digits) : ∃ value, Denotes c value := by
  cases h with
  | short hdigit _ =>
    rw [List.mem_singleton.mp hc]
    exact ⟨_, hdigit⟩
  | full hhigh hlow _ =>
    rcases List.mem_cons.mp hc with rfl | hc
    · exact ⟨_, hhigh⟩
    · rw [List.mem_singleton.mp hc]
      exact ⟨_, hlow⟩

theorem IsPadding.not_mem {text : List Char} (h : IsPadding text) {c : Char}
    (hc : c ∈ [',', '\x7d', '\n']) : c ∉ text := by
  intro hmem
  obtain ⟨hblank, hnewline⟩ := h c hmem
  simp only [List.mem_cons, List.not_mem_nil, or_false] at hc
  rcases hc with rfl | rfl | rfl
  · exact absurd hblank (by decide)
  · exact absurd hblank (by decide)
  · exact hnewline rfl

/-- Nothing in an element ends it, its slice or its line. -/
theorem Element.not_mem_text (e : Element) {c : Char} (hc : c ∈ [',', '\x7d', '\n']) : c ∉ e.text := by
  intro hmem
  simp only [text, List.mem_append, List.mem_cons] at hmem
  rcases hmem with hmem | rfl | rfl | hmem | hmem
  · exact e.before_padding.not_mem hc hmem
  · exact absurd hc (by decide)
  · exact absurd hc (by decide)
  · obtain ⟨value, hdenotes⟩ := e.spells.denotes hmem
    exact hdenotes.spec.2.2.1 hc
  · exact e.after_padding.not_mem hc hmem

/-! ## The inside of a slice -/

theorem elementsFrom_eq (begun text : List Char) :
    elementsFrom begun text = text.splitOnPPrepend (· == ',') begun := by
  induction text generalizing begun with
  | nil => rw [elementsFrom, List.splitOnPPrepend_nil]
  | cons c text ih =>
    rw [elementsFrom, List.splitOnPPrepend_cons_eq_if]
    by_cases hc : c = ','
    · rw [if_pos hc, if_pos (beq_iff_eq.mpr hc), ih, List.splitOnP_eq_splitOnPPrepend]
    · rw [if_neg hc, if_neg (mt beq_iff_eq.mp hc), ih]

/-- Elements are the parts between commas. -/
theorem elements_eq (body : List Char) : elements body = body.splitOn ',' := by
  rw [elements, elementsFrom_eq, List.splitOn_eq_splitOnP, List.splitOnP_eq_splitOnPPrepend]

theorem elements_of_not_mem {text : List Char} (h : ',' ∉ text) : elements text = [text] := by
  rw [elements_eq, List.splitOn_eq_singleton h]

theorem elements_append_comma {text : List Char} (h : ',' ∉ text) (rest : List Char) :
    elements (text ++ ',' :: rest) = text :: elements rest := by
  rw [elements_eq, elements_eq, List.splitOn_append_cons_self_of_not_mem h]

/-- A comma at the end adds an empty part, which has no digits. -/
theorem digits_trailing {text : List Char} (h : ',' ∉ text) (trailingComma : Bool) :
    (elements (text ++ if trailingComma then [','] else [])).flatMap elementDigits = elementDigits text := by
  cases trailingComma with
  | false => simp [elements_of_not_mem h]
  | true =>
    rw [if_pos rfl, elements_append_comma h, elements_of_not_mem (by simp)]
    simp [show elementDigits [] = [] from rfl]

theorem digits_inside (written : List Element) (trailingComma : Bool) :
    (elements (inside written trailingComma)).flatMap elementDigits =
      (written.map fun e => elementDigits e.text).flatten := by
  unfold inside
  induction written with
  | nil => exact digits_trailing (by simp) trailingComma
  | cons e written ih =>
    have hcomma : ',' ∉ e.text := e.not_mem_text (by simp)
    cases written with
    | nil => simpa using digits_trailing hcomma trailingComma
    | cons e' written =>
      rw [List.map_cons, List.map_cons, List.intercalate_cons_cons, ← List.map_cons, List.append_assoc,
        List.append_assoc, List.singleton_append, elements_append_comma hcomma, List.flatMap_cons, ih]
      rfl

theorem decodeBody_inside (written : List Element) (trailingComma : Bool) :
    decodeBody (inside written trailingComma) = .ok (written.map Element.byte) := by
  rw [decodeBody, digits_inside]
  apply Hex.decode_of_pairs
  rw [List.forall₂_map_left_iff, List.forall₂_map_right_iff, List.forall₂_same]
  exact fun e _ => e.pair

theorem not_mem_intercalate {c separator : Char} (hc : c ≠ separator) {parts : List (List Char)}
    (h : ∀ part ∈ parts, c ∉ part) : c ∉ [separator].intercalate parts := by
  induction parts with
  | nil => simp
  | cons part parts ih =>
    obtain ⟨hpart, hparts⟩ := List.forall_mem_cons.mp h
    cases parts with
    | nil => simpa using hpart
    | cons next parts =>
      rw [List.intercalate_cons_cons]
      simp only [List.mem_append, List.mem_singleton, not_or]
      exact ⟨⟨hpart, hc⟩, ih hparts⟩

/-- Nothing in the inside of a slice ends the slice or its line. -/
theorem not_mem_inside {c : Char} (hc : c ∈ ['\x7d', '\n']) (written : List Element)
    (trailingComma : Bool) : c ∉ inside written trailingComma := by
  have hcomma : c ≠ ',' := by
    rintro rfl
    exact absurd hc (by decide)
  have hwritten : ∀ part ∈ written.map Element.text, c ∉ part := by
    intro part hpart
    obtain ⟨e, -, rfl⟩ := List.mem_map.mp hpart
    exact e.not_mem_text (List.mem_cons_of_mem _ hc)
  rw [inside, List.mem_append, not_or]
  refine ⟨not_mem_intercalate hcomma hwritten, ?_⟩
  cases trailingComma <;> simp [hcomma]

/-! ## Lines -/

/-- A slice is opened in no other place than its own: the opening begins with a character that does not occur
in it again, so that it cannot begin in front and end in the opening proper. -/
theorem not_prefix_of_opensNone {front : List Char} (h : OpensNone front) (hne : front ≠ [])
    (rest : List Char) : ¬ opening <+: front ++ (opening ++ rest) := by
  rintro ⟨after, hafter⟩
  rcases List.append_eq_append_iff.mp hafter with ⟨middle, hfront, -⟩ | ⟨middle, hopening, hmiddle⟩
  · exact h ⟨[], middle, hfront.symm⟩
  · cases middle with
    | nil => exact h ⟨[], [], by simpa using hopening⟩
    | cons c middle =>
      obtain ⟨first, front, rfl⟩ := List.exists_cons_of_ne_nil hne
      have hbracket : c = '[' := (List.cons.inj hmiddle).1.symm
      have hmem : '[' ∈ opening.tail := by
        rw [hopening, hbracket]
        simp
      exact absurd hmem (by decide)

theorem OpensNone.tail {c : Char} {text : List Char} (h : OpensNone (c :: text)) : OpensNone text :=
  fun hwithin => h (hwithin.trans (List.suffix_cons c text).isInfix)

theorem afterOpening?_cons {c : Char} {rest : List Char} (h : ¬ opening <+: c :: rest) :
    afterOpening? (c :: rest) = afterOpening? rest := by
  rw [afterOpening?, if_neg (by simpa using h)]

theorem afterOpening?_append {front : List Char} (h : OpensNone front) (rest : List Char) :
    afterOpening? (front ++ (opening ++ rest)) = some rest := by
  induction front with
  | nil => rfl
  | cons c front ih =>
    have hstart := not_prefix_of_opensNone h (List.cons_ne_nil c front) rest
    rw [List.cons_append] at hstart ⊢
    rw [afterOpening?_cons hstart, ih h.tail]

theorem afterOpening?_of_opensNone {text : List Char} (h : OpensNone text) : afterOpening? text = none := by
  induction text with
  | nil => rfl
  | cons c text ih => rw [afterOpening?_cons fun hstart => h hstart.isInfix, ih h.tail]

theorem beforeClosing?_append {text : List Char} (h : '\x7d' ∉ text) (rest : List Char) :
    beforeClosing? (text ++ '\x7d' :: rest) = some text := by
  have hother : ∀ c ∈ text, decide (c ≠ '\x7d') = true := by
    intro c hc
    exact decide_eq_true fun heq => h (heq ▸ hc)
  rw [beforeClosing?, if_pos (by simp), List.takeWhile_append_of_pos hother]
  simp

theorem body?_slice {front : List Char} (h : OpensNone front) (written : List Element) (trailingComma : Bool)
    (rest : List Char) :
    body? (front ++ (opening ++ (inside written trailingComma ++ '\x7d' :: rest))) =
      some (inside written trailingComma) := by
  rw [body?, afterOpening?_append h, Option.bind_some,
    beforeClosing?_append (not_mem_inside (by simp) written trailingComma)]

/-- A line is what is shown of it, but for a carriage return at its end. -/
def ShownAs (text shown : List Char) : Prop := shown = text ∨ shown ++ ['\r'] = text

theorem decodeLine_plain {text shown : List Char} (h : OpensNone text) (hshown : ShownAs text shown)
    (number : Nat) : decodeLine number (Text.Utf8.encode shown) = .ok [] := by
  have hstart : shown <+: text := by
    rcases hshown with rfl | rfl
    · exact List.prefix_rfl
    · exact List.prefix_append _ _
  have hnone : OpensNone shown := fun hwithin => h (hwithin.trans hstart.isInfix)
  simp only [decodeLine, Text.Utf8.decode?_encode, body?, afterOpening?_of_opensNone hnone, Option.bind_none]

theorem decodeLine_slice {front : List Char} (h : OpensNone front) (written : List Element)
    (trailingComma : Bool) {rest shown : List Char}
    (hshown : ShownAs (front ++ opening ++ inside written trailingComma ++ '\x7d' :: rest) shown)
    (number : Nat) : decodeLine number (Text.Utf8.encode shown) = .ok (written.map Element.byte) := by
  -- A carriage return at the end is in the rest of the line, since the slice itself ends with a brace.
  have hbody : ∃ rest, shown = front ++ (opening ++ (inside written trailingComma ++ '\x7d' :: rest)) := by
    rcases hshown with rfl | hshown
    · exact ⟨rest, by simp⟩
    · rcases List.eq_nil_or_concat' rest with rfl | ⟨rest, c, rfl⟩
      · have hlast := (List.append_singleton_inj.mp hshown).2
        exact absurd hlast (by decide)
      · rw [← List.cons_append, ← List.append_assoc] at hshown
        exact ⟨rest, by simpa using (List.append_singleton_inj.mp hshown).1⟩
  obtain ⟨rest, rfl⟩ := hbody
  simp only [decodeLine, Text.Utf8.decode?_encode, body?_slice h, decodeBody_inside]

theorem Line.decodeLine_shown (line : Line) {shown : List Char} (hshown : ShownAs line.text shown)
    (number : Nat) : decodeLine number (Text.Utf8.encode shown) = .ok line.bytes := by
  cases line with
  | plain text hnone _ => exact decodeLine_plain hnone hshown number
  | slice front written trailingComma rest hnone _ => exact decodeLine_slice hnone written trailingComma hshown number

theorem Line.newline_not_mem (line : Line) : '\n' ∉ line.text := by
  cases line with
  | plain text _ hline => exact hline
  | slice front written trailingComma rest _ hline =>
    have hinside := not_mem_inside (c := '\n') (by simp) written trailingComma
    simp only [text, List.mem_append, List.mem_cons, not_or]
    exact ⟨⟨⟨hline.1, by decide⟩, hinside⟩, by decide, hline.2⟩

/-! ## Cutting a text into lines -/

theorem newline_not_mem_encode {text : List Char} (h : '\n' ∉ text) : 10 ∉ Text.Utf8.encode text := by
  intro hmem
  obtain ⟨c, hc, hbyte⟩ := Text.Utf8.mem_encode (by decide) hmem
  have hnewline : c = '\n' := Char.toNat_inj.mp hbyte
  exact h (hnewline ▸ hc)

theorem linesFrom_append (begun line rest : List UInt8) (h : 10 ∉ line) :
    linesFrom begun (line ++ rest) = linesFrom (line.reverse ++ begun) rest := by
  induction line generalizing begun with
  | nil => rfl
  | cons b line ih =>
    obtain ⟨hb, hline⟩ := not_or.mp (mt List.mem_cons.mpr h)
    rw [List.cons_append, linesFrom, if_neg (Ne.symm hb), ih _ hline]
    simp

theorem lines_append_lineFeed {line : List UInt8} (h : 10 ∉ line) (rest : List UInt8) :
    lines (line ++ 10 :: rest) = chomp line.reverse :: lines rest := by
  rw [lines, linesFrom_append [] line _ h, linesFrom, if_pos rfl, List.append_nil, lines]

theorem lines_of_not_mem {line : List UInt8} (h : 10 ∉ line) : lines line = if line = [] then [] else [line] := by
  have happend := linesFrom_append [] line [] h
  rw [List.append_nil, List.append_nil] at happend
  rw [lines, happend, linesFrom]
  simp

theorem chomp_cons {b : UInt8} (hb : b ≠ 13) (line : List UInt8) : chomp (b :: line) = (b :: line).reverse := by
  unfold chomp
  split
  · rename_i heq
    exact absurd (List.cons.inj heq).1 hb
  · rfl

/-- What is left of an encoded line when its end is cut off. -/
theorem chomp_encode (text : List Char) :
    ∃ shown, ShownAs text shown ∧ chomp (Text.Utf8.encode text).reverse = Text.Utf8.encode shown := by
  rcases List.eq_nil_or_concat' text with rfl | ⟨text, c, rfl⟩
  · exact ⟨[], .inl rfl, rfl⟩
  · by_cases hreturn : c = '\r'
    · subst hreturn
      refine ⟨text, .inr rfl, ?_⟩
      rw [Text.Utf8.encode_append, List.reverse_append]
      show chomp (13 :: (Text.Utf8.encode text).reverse) = _
      rw [chomp, List.reverse_reverse]
    · refine ⟨text ++ [c], .inl rfl, ?_⟩
      -- The last byte of another character is no carriage return.
      obtain ⟨b, tail, hencoded, -⟩ := Text.Utf8.next_encoded c []
      obtain ⟨last, front, hlast⟩ := List.exists_cons_of_ne_nil (l := (String.utf8EncodeChar c).reverse)
        (by simp [hencoded])
      have hmem : last ∈ String.utf8EncodeChar c := List.mem_reverse.mp (hlast ▸ List.mem_cons_self)
      have hne : last ≠ 13 := by
        rintro rfl
        exact hreturn (Char.toNat_inj.mp (Text.Utf8.toNat_eq_of_mem hmem (by decide)))
      have hreverse : (Text.Utf8.encode (text ++ [c])).reverse =
          last :: (front ++ (Text.Utf8.encode text).reverse) := by
        rw [Text.Utf8.encode_append, List.reverse_append, Text.Utf8.encode_cons, Text.Utf8.encode_nil,
          List.append_nil, hlast, List.cons_append]
      rw [hreverse, chomp_cons hne, ← hreverse, List.reverse_reverse]

theorem chomp_encode_return (text : List Char) :
    chomp (Text.Utf8.encode text ++ [13]).reverse = Text.Utf8.encode text := by
  rw [List.reverse_append, List.reverse_singleton, List.singleton_append, chomp, List.reverse_reverse]

/-- The end of a line is cut off; of the line itself at most a carriage return is lost. -/
theorem lines_cons (line : Line) (lineEnd : LineEnd) (rest : List Char) :
    ∃ shown, ShownAs line.text shown ∧
      lines (Text.Utf8.encode (line.text ++ lineEnd.text ++ rest)) =
        Text.Utf8.encode shown :: lines (Text.Utf8.encode rest) := by
  have hline := newline_not_mem_encode line.newline_not_mem
  cases lineEnd with
  | lineFeed =>
    obtain ⟨shown, hshown, hchomp⟩ := chomp_encode line.text
    refine ⟨shown, hshown, ?_⟩
    rw [Text.Utf8.encode_append, Text.Utf8.encode_append, List.append_assoc, ← hchomp]
    exact lines_append_lineFeed hline _
  | carriageReturn =>
    refine ⟨line.text, .inl rfl, ?_⟩
    have hreturn : 10 ∉ Text.Utf8.encode line.text ++ [13] := by simpa using hline
    calc lines (Text.Utf8.encode (line.text ++ LineEnd.carriageReturn.text ++ rest))
        = lines ((Text.Utf8.encode line.text ++ [13]) ++ 10 :: Text.Utf8.encode rest) := by
          rw [Text.Utf8.encode_append, Text.Utf8.encode_append, List.append_assoc, List.append_assoc]
          rfl
      _ = chomp (Text.Utf8.encode line.text ++ [13]).reverse :: lines (Text.Utf8.encode rest) :=
          lines_append_lineFeed hreturn _
      _ = Text.Utf8.encode line.text :: lines (Text.Utf8.encode rest) := by rw [chomp_encode_return]

theorem decodeLines_cons {number : Nat} {line : List UInt8} {bytes : List UInt8}
    (hline : decodeLine number line = .ok bytes) (rest : List (List UInt8)) :
    decodeLines number (line :: rest) = (decodeLines (number + 1) rest).map (bytes ++ ·) := by
  rw [decodeLines, hline]

theorem lines_last (line : Line) (number : Nat) :
    decodeLines number (lines (Text.Utf8.encode line.text)) = .ok line.bytes := by
  rw [lines_of_not_mem (newline_not_mem_encode line.newline_not_mem)]
  have hline := line.decodeLine_shown (.inl rfl) number
  split
  · rename_i hempty
    have hnothing : decodeLine number (Text.Utf8.encode []) = .ok [] :=
      decodeLine_plain (by decide) (.inl rfl) number
    rw [hempty] at hline
    exact hnothing.symm.trans hline
  · rw [decodeLines_cons hline, decodeLines]
    simp [Except.map]

theorem decodeLines_ended (ended : List (Line × LineEnd)) {last : List Char} {bytes : List UInt8}
    (hlast : ∀ number, decodeLines number (lines (Text.Utf8.encode last)) = .ok bytes) (number : Nat) :
    decodeLines number (lines (Text.Utf8.encode
        ((ended.flatMap fun (line, lineEnd) => line.text ++ lineEnd.text) ++ last))) =
      .ok ((ended.flatMap fun (line, _) => line.bytes) ++ bytes) := by
  induction ended generalizing number with
  | nil => exact hlast number
  | cons entry ended ih =>
    obtain ⟨line, lineEnd⟩ := entry
    obtain ⟨shown, hshown, hlines⟩ := lines_cons line lineEnd
      ((ended.flatMap fun (line, lineEnd) => line.text ++ lineEnd.text) ++ last)
    rw [List.flatMap_cons, List.append_assoc, hlines, decodeLines_cons (line.decodeLine_shown hshown number),
      ih, List.flatMap_cons, List.append_assoc]
    rfl

/-- **Byte slices are read as they are written.** -/
theorem decode_written (written : Lines) :
    decode (Text.Utf8.encode written.text) = .ok written.bytes := by
  obtain ⟨ended, last⟩ := written
  cases last with
  | none =>
    have hnothing : ∀ number, decodeLines number (lines (Text.Utf8.encode [])) = .ok [] := fun _ => rfl
    exact decodeLines_ended ended hnothing 1
  | some line => exact decodeLines_ended ended (lines_last line) 1

end DecoderHost.Literal

import DecoderHost.Proofs.Literal.LineEnds

/-!
# Line by line

Where a text is cut behind a line feed, its two parts are read each by itself: the bytes of the second come after
those of the first, or the first failure counts, and the lines of the second are numbered on from the first
(`decode_append`). Each line stands for itself, so that what is reported is the fault of the first line that has one.
-/

namespace DecoderHost

/-- An error as it is reported behind so many lines more. -/
def LiteralError.moved (lines : Nat) : LiteralError → LiteralError
  | notText => notText
  | invalidLiteral line body error => invalidLiteral (line + lines) body error

theorem LiteralError.moved_moved (e : LiteralError) (first second : Nat) :
    (e.moved second).moved first = e.moved (first + second) := by
  cases e with
  | notText => rfl
  | invalidLiteral line body error => simp only [moved, Nat.add_assoc, Nat.add_comm first]

namespace Literal

open Text.Utf8 (WellFormed)

/-- What comes of a text from what comes of so many lines and of those after them. -/
def followedBy (lines : Nat) :
    Except LiteralError (List UInt8) → Except LiteralError (List UInt8) → Except LiteralError (List UInt8)
  | .error e, _ => .error e
  | .ok bytes, .ok more => .ok (bytes ++ more)
  | .ok _, .error e => .error (e.moved lines)

/-- A text that is empty or ends with a line feed. -/
def EndsLine (text : List UInt8) : Prop := text = [] ∨ ∃ front, text = front ++ [10]

/-- The fault of a line with a number: it is no text, or its slice cannot be read. -/
inductive LineFault (number : Nat) (line : List UInt8) : LiteralError → Prop
  | notText (h : ¬ WellFormed line) : LineFault number line .notText
  | invalidLiteral {text body : List Char} {e : HexError} (hline : Text.Utf8.encode text = line)
    (hbody : Holds text body) (he : decodeBody body = .error e) :
    LineFault number line (.invalidLiteral number (String.ofList body) e)

/-- The fault of the first line that has one. Lines are what stands between line feeds. -/
def FirstFault (text : List UInt8) (e : LiteralError) : Prop :=
  ∃ before line after, text.splitOn 10 = before ++ line :: after ∧
    (∀ earlier ∈ before, ∀ number e', ¬ LineFault number earlier e') ∧ LineFault (before.length + 1) line e

/-! ## Results one after the other -/

/-- Three texts come to the same whichever two are put together first. -/
theorem followedBy_assoc (k l : Nat) (a b c : Except LiteralError (List UInt8)) :
    followedBy k a (followedBy l b c) = followedBy (k + l) (followedBy k a b) c := by
  cases a with
  | error e => rfl
  | ok first =>
    cases b with
    | error e => rfl
    | ok second =>
      cases c with
      | error e => exact congrArg Except.error (e.moved_moved k l)
      | ok third => exact congrArg Except.ok (List.append_assoc first second third).symm

theorem followedBy_nil_right (k : Nat) (a : Except LiteralError (List UInt8)) : followedBy k a (.ok []) = a := by
  cases a with
  | error e => rfl
  | ok bytes => exact congrArg Except.ok (List.append_nil bytes)

theorem decodeLine_succ (number : Nat) (line : List UInt8) :
    decodeLine (number + 1) line = followedBy 1 (.ok []) (decodeLine number line) := by
  unfold decodeLine
  cases Text.Utf8.decode? line with
  | none => rfl
  | some text =>
    dsimp only
    cases body? text with
    | none => rfl
    | some body =>
      dsimp only
      cases decodeBody body with
      | error e => rfl
      | ok bytes => rfl

theorem map_append_eq (bytes : List UInt8) (result : Except LiteralError (List UInt8)) :
    result.map (bytes ++ ·) = followedBy 0 (.ok bytes) result := by
  cases result with
  | error e => cases e <;> rfl
  | ok more => rfl

/-- The number of the first line shows in nothing but errors. -/
theorem decodeLines_succ (number : Nat) (rest : List (List UInt8)) :
    decodeLines (number + 1) rest = followedBy 1 (.ok []) (decodeLines number rest) := by
  induction rest generalizing number with
  | nil => rfl
  | cons line rest ih =>
    rw [decodeLines, decodeLines, decodeLine_succ]
    cases decodeLine number line with
    | error e => rfl
    | ok bytes =>
      show (decodeLines (number + 2) rest).map ([] ++ bytes ++ ·) = _
      dsimp only
      rw [map_append_eq, map_append_eq, ih (number + 1), followedBy_assoc, followedBy_assoc, followedBy_nil_right]
      rfl

/-- One line more in front. -/
theorem decodeLines_cons_eq (number : Nat) (line : List UInt8) (rest : List (List UInt8)) :
    decodeLines number (line :: rest) = followedBy 1 (decodeLine number line) (decodeLines number rest) := by
  rw [decodeLines]
  cases decodeLine number line with
  | error e => rfl
  | ok bytes =>
    dsimp only
    rw [map_append_eq, decodeLines_succ, followedBy_assoc]
    show followedBy 1 (.ok (bytes ++ [])) _ = _
    rw [List.append_nil]

/-- More lines in front. -/
theorem decodeLines_append (number : Nat) (first rest : List (List UInt8)) :
    decodeLines number (first ++ rest) =
      followedBy first.length (decodeLines number first) (decodeLines number rest) := by
  induction first with
  | nil =>
    rw [List.nil_append, decodeLines, List.length_nil, ← map_append_eq]
    cases decodeLines number rest <;> rfl
  | cons line first ih =>
    rw [List.cons_append, decodeLines_cons_eq, ih, decodeLines_cons_eq, followedBy_assoc, List.length_cons,
      Nat.add_comm]

/-! ## Counting lines -/

theorem length_splitOn (text : List UInt8) : (text.splitOn 10).length = text.count 10 + 1 := by
  induction text with
  | nil => rfl
  | cons b text ih =>
    rw [List.splitOn_cons_eq_if_modifyHead, List.count_cons]
    by_cases hb : (b == 10) = true
    · rw [if_pos hb, if_pos hb, List.length_cons, ih]
    · rw [if_neg hb, if_neg hb, List.length_modifyHead, ih, Nat.add_zero]

/-! ## The fault of a line -/

theorem decodeLine_eq_error_iff {number : Nat} {line : List UInt8} {e : LiteralError} :
    decodeLine number line = .error e ↔ LineFault number line e := by
  constructor
  · intro h
    unfold decodeLine at h
    cases hdecode : Text.Utf8.decode? line with
    | none =>
      simp only [hdecode, Except.error.injEq] at h
      exact h ▸ .notText (Text.Utf8.decode?_eq_none_iff.mp hdecode)
    | some text =>
      cases hbody : body? text with
      | none => simp [hdecode, hbody] at h
      | some body =>
        cases hread : decodeBody body with
        | ok bytes => simp [hdecode, hbody, hread] at h
        | error found =>
          simp only [hdecode, hbody, hread, Except.error.injEq] at h
          exact h ▸ .invalidLiteral (Text.Utf8.decode?_eq_some_iff.mp hdecode) (body?_eq_some_iff.mp hbody) hread
  · intro h
    cases h with
    | notText h => simp only [decodeLine, Text.Utf8.decode?_eq_none_iff.mpr h]
    | invalidLiteral hline hbody he =>
      simp only [decodeLine, Text.Utf8.decode?_eq_some_iff.mpr hline, body?_eq_some_iff.mpr hbody, he]

/-- Whether a line has a fault does not depend on its number. -/
theorem LineFault.renumbered {number : Nat} {line : List UInt8} {e : LiteralError} (h : LineFault number line e)
    (other : Nat) : ∃ e', LineFault other line e' := by
  cases h with
  | notText h => exact ⟨_, .notText h⟩
  | invalidLiteral hline hbody he => exact ⟨_, .invalidLiteral hline hbody he⟩

theorem not_lineFault_of_ok {number : Nat} {line bytes : List UInt8} (h : decodeLine number line = .ok bytes)
    (other : Nat) (e : LiteralError) : ¬ LineFault other line e := by
  intro hfault
  obtain ⟨e', hfault⟩ := hfault.renumbered number
  exact absurd (h.symm.trans (decodeLine_eq_error_iff.mpr hfault)) (by simp)

theorem decodeLines_cons_eq_error {number : Nat} {line bytes : List UInt8} (h : decodeLine number line = .ok bytes)
    {rest : List (List UInt8)} {e : LiteralError} :
    decodeLines number (line :: rest) = .error e ↔ decodeLines (number + 1) rest = .error e := by
  rw [decodeLines_cons h]
  cases decodeLines (number + 1) rest <;> simp [Except.map]

/-- The first line that has a fault is the one that is reported, whatever comes after it. -/
theorem decodeLines_eq_error_iff {number : Nat} {lines : List (List UInt8)} {e : LiteralError} :
    decodeLines number lines = .error e ↔
      ∃ before line after, lines = before ++ line :: after ∧
        (∀ earlier ∈ before, ∀ number e', ¬ LineFault number earlier e') ∧
        LineFault (number + before.length) line e := by
  induction lines generalizing number with
  | nil => simp [decodeLines]
  | cons line rest ih =>
    cases hline : decodeLine number line with
    | error found =>
      have hfault := decodeLine_eq_error_iff.mp hline
      rw [decodeLines, hline]
      constructor
      · intro h
        exact ⟨[], line, rest, rfl, by simp, Except.error.inj h ▸ hfault⟩
      · rintro ⟨_ | ⟨first, before⟩, faulty, after, hsplit, hbefore, hfaulty⟩
        · obtain ⟨rfl, -⟩ := List.cons.inj hsplit
          exact hline.symm.trans (decodeLine_eq_error_iff.mpr hfaulty)
        · obtain ⟨rfl, -⟩ := List.cons.inj hsplit
          exact absurd hfault (hbefore line List.mem_cons_self number found)
    | ok bytes =>
      have hnone := not_lineFault_of_ok hline
      have hcount : ∀ before : List (List UInt8), number + 1 + before.length = number + (line :: before).length := by
        intro before
        rw [List.length_cons, Nat.add_assoc, Nat.add_comm 1]
      rw [decodeLines_cons_eq_error hline, ih]
      constructor
      · rintro ⟨before, faulty, after, rfl, hbefore, hfaulty⟩
        have hearlier := List.forall_mem_cons.mpr ⟨hnone, hbefore⟩
        exact ⟨line :: before, faulty, after, rfl, hearlier, hcount before ▸ hfaulty⟩
      · rintro ⟨_ | ⟨first, before⟩, faulty, after, hsplit, hbefore, hfaulty⟩
        · obtain ⟨rfl, -⟩ := List.cons.inj hsplit
          exact absurd hfaulty (hnone _ e)
        · obtain ⟨rfl, rfl⟩ := List.cons.inj hsplit
          exact ⟨before, faulty, after, rfl, (List.forall_mem_cons.mp hbefore).2, (hcount before).symm ▸ hfaulty⟩

theorem decode_eq_error_iff {text : List UInt8} {e : LiteralError} :
    decode text = .error e ↔ FirstFault text e := by
  rw [decode_eq, decodeLines_eq_error_iff, FirstFault]
  simp only [Nat.add_comm 1]

/-! ## Texts one after the other -/

/-- **What stands behind a line feed is read by itself**, its lines numbered on from those before it. So the error is
that of the first line that has a fault. -/
theorem decode_append {first : List UInt8} (h : EndsLine first) (rest : List UInt8) :
    decode (first ++ rest) = followedBy (first.count 10) (decode first) (decode rest) ∧
    ∀ e, decode (first ++ rest) = .error e ↔ FirstFault (first ++ rest) e := by
  refine ⟨?_, fun _ => decode_eq_error_iff⟩
  rcases h with rfl | ⟨front, rfl⟩
  · exact decodeLines_append 1 [] _
  · have hcount : (front ++ [10]).count 10 = (front.splitOn 10).length := by
      rw [List.count_append, length_splitOn]
      rfl
    have hfirst : decode (front ++ [10]) = decodeLines 1 (front.splitOn 10) := by
      rw [decode_eq, List.splitOn_append_cons_self, List.splitOn_nil, decodeLines_append,
        decodeLines_cons (decodeLine_nil 1)]
      exact followedBy_nil_right _ _
    rw [hcount, hfirst, List.append_assoc, List.singleton_append, decode_eq, List.splitOn_append_cons_self,
      decodeLines_append, decode_eq rest]

/-- A line with a slice, and one without. -/
def plainLines : List UInt8 := Text.Utf8.encode "[]byte\x7b0x90\x7d\r\n// none\n".toList

/-- A line with a slice that holds no digits. -/
def strayLine : List UInt8 := Text.Utf8.encode "[]byte\x7b0xzz\x7d".toList

/-- The first line of the second text is the third of both. -/
theorem third_line_reported :
    EndsLine plainLines ∧
    decode (plainLines ++ strayLine) = .error (.invalidLiteral 3 "0xzz" (.invalidCharacter 122 0)) ∧
    FirstFault (plainLines ++ strayLine) (.invalidLiteral 3 "0xzz" (.invalidCharacter 122 0)) := by
  have hends : EndsLine plainLines := .inr ⟨Text.Utf8.encode "[]byte\x7b0x90\x7d\r\n// none".toList, rfl⟩
  have happend := decode_append hends strayLine
  have herror := happend.1.trans
    (show _ = .error (.invalidLiteral 3 "0xzz" (.invalidCharacter 122 0)) by decide +kernel)
  exact ⟨hends, herror, (happend.2 _).mp herror⟩

end Literal

end DecoderHost

import DecoderHost.Text.Utf8
import Mathlib.Tactic.ByContra
import Mathlib.Tactic.SplitIfs

/-!
# UTF-8 there and back

A text is read back from its encoding. A character of one byte is that byte; the bytes of all others are
beyond them, so that a search for a character of one byte in an encoding finds the character and nothing
else.

Nothing else is read as a text: what is decoded without a malformed prefix is the encoding of what it is decoded to.
So a byte string that is no encoding shows a replacement character once it is repaired.
-/

namespace DecoderHost.Text.Utf8

theorem toNat_ofNat_of_lt {n : Nat} (h : n < 256) : (UInt8.ofNat n).toNat = n := by
  rw [UInt8.toNat_ofNat']
  exact Nat.mod_eq_of_lt h

/-! ## First bytes -/

theorem lead?_two {n : Nat} (h : 0xC2 ≤ n ∧ n < 0xE0) :
    lead? (UInt8.ofNat n) = some ⟨1, n - 0xC0, 0x80, 0xBF⟩ := by
  unfold lead?
  rw [toNat_ofNat_of_lt (by omega)]
  dsimp only
  rw [if_neg (by omega), if_pos h.2]

theorem lead?_three {n : Nat} (h : 0xE0 ≤ n ∧ n < 0xF0) :
    lead? (UInt8.ofNat n) =
      some ⟨2, n - 0xE0, if n = 0xE0 then 0xA0 else 0x80, if n = 0xED then 0x9F else 0xBF⟩ := by
  unfold lead?
  rw [toNat_ofNat_of_lt (by omega)]
  dsimp only
  rw [if_neg (by omega), if_neg (by omega)]
  by_cases hfirst : n = 0xE0
  · simp [hfirst]
  · by_cases hsurrogates : n = 0xED
    · simp [hsurrogates]
    · rw [if_neg hfirst, if_neg hsurrogates, if_pos h.2, if_neg hfirst, if_neg hsurrogates]

theorem lead?_four {n : Nat} (h : 0xF0 ≤ n ∧ n ≤ 0xF4) :
    lead? (UInt8.ofNat n) =
      some ⟨3, n - 0xF0, if n = 0xF0 then 0x90 else 0x80, if n = 0xF4 then 0x8F else 0xBF⟩ := by
  unfold lead?
  rw [toNat_ofNat_of_lt (by omega)]
  dsimp only
  rw [if_neg (by omega), if_neg (by omega), if_neg (by omega), if_neg (by omega), if_neg (by omega)]
  by_cases hfirst : n = 0xF0
  · simp [hfirst]
  · by_cases hlast : n = 0xF4
    · simp [hlast]
    · rw [if_neg hfirst, if_pos (by omega), if_neg hfirst, if_neg hlast]

/-! ## One character -/

theorem complete_cons {owed payload low high n : Nat} (hn : n < 256) (hlow : low ≤ n) (hhigh : n ≤ high)
    (rest : List UInt8) :
    complete (owed + 1) payload low high (UInt8.ofNat n :: rest) =
      complete owed (payload * 64 + n % 64) 0x80 0xBF rest := by
  rw [complete, toNat_ofNat_of_lt hn, if_pos ⟨hlow, hhigh⟩]

/-- A first byte announces the bytes after it, and these complete a character. -/
theorem next_of_lead {n : Nat} {l : Lead} (hn : 0x80 ≤ n ∧ n < 256) (hlead : lead? (UInt8.ofNat n) = some l)
    {c : Char} {rest left : List UInt8}
    (hcomplete : complete l.owed l.payload l.low l.high rest = (some c.toNat, left)) :
    next (UInt8.ofNat n) rest = (some c, left) := by
  rw [next, toNat_ofNat_of_lt hn.2, if_neg (by omega)]
  simp only [hlead, hcomplete, Option.map_some, Char.ofNat_toNat]

theorem toNat_valid (c : Char) : c.toNat < 0xD800 ∨ 0xDFFF < c.toNat ∧ c.toNat < 0x110000 := c.valid

/-- The first character of an encoded text is read off the front. -/
theorem next_encoded (c : Char) (rest : List UInt8) :
    ∃ b tail, String.utf8EncodeChar c = b :: tail ∧ next b (tail ++ rest) = (some c, rest) := by
  have hvalid := toNat_valid c
  unfold String.utf8EncodeChar
  rw [show c.val.toNat = c.toNat from rfl]
  dsimp only
  -- One case for each length of an encoding; the ranges of its bytes follow from those of the code point.
  split_ifs with hone htwo hthree
  · refine ⟨_, [], rfl, ?_⟩
    rw [next, toNat_ofNat_of_lt (by omega), if_pos (by omega), Char.ofNat_toNat]
    rfl
  · refine ⟨_, _, rfl, next_of_lead (by omega) (lead?_two (by omega)) ?_⟩
    dsimp only [List.cons_append, List.nil_append]
    rw [complete_cons (by omega) (by omega) (by omega), complete]
    congr 2
    omega
  · refine ⟨_, _, rfl, next_of_lead (by omega) (lead?_three (by omega)) ?_⟩
    dsimp only [List.cons_append, List.nil_append]
    rw [complete_cons (by omega) (by split_ifs <;> omega) (by split_ifs <;> omega),
      complete_cons (by omega) (by omega) (by omega), complete]
    congr 2
    omega
  · refine ⟨_, _, rfl, next_of_lead (by omega) (lead?_four (by omega)) ?_⟩
    dsimp only [List.cons_append, List.nil_append]
    rw [complete_cons (by omega) (by split_ifs <;> omega) (by split_ifs <;> omega),
      complete_cons (by omega) (by omega) (by omega), complete_cons (by omega) (by omega) (by omega),
      complete]
    congr 2
    omega

/-! ## Texts -/

@[simp] theorem encode_nil : encode [] = [] := rfl

theorem encode_cons (c : Char) (text : List Char) :
    encode (c :: text) = String.utf8EncodeChar c ++ encode text := rfl

theorem encode_append (a b : List Char) : encode (a ++ b) = encode a ++ encode b := List.flatMap_append

/-- Every character has a byte. -/
theorem length_le_length_encode (text : List Char) : text.length ≤ (encode text).length := by
  induction text with
  | nil => exact Nat.le_refl 0
  | cons c text ih =>
    obtain ⟨b, tail, hencoded, -⟩ := next_encoded c []
    simp only [encode_cons, hencoded, List.length_append, List.length_cons]
    omega

theorem pieces_encode (text : List Char) : pieces (encode text) = text.map some := by
  induction text with
  | nil => simp [pieces]
  | cons c text ih =>
    obtain ⟨b, tail, hencoded, hnext⟩ := next_encoded c (encode text)
    rw [encode_cons, hencoded, List.cons_append, pieces, hnext, ih, List.map_cons]

/-- **Decoding undoes encoding.** -/
theorem decode?_encode (text : List Char) : decode? (encode text) = some text := by
  rw [decode?, pieces_encode]
  induction text with
  | nil => rfl
  | cons c text ih => simp [List.mapM_cons, ih]

/-! ## Characters of one byte -/

theorem utf8EncodeChar_of_lt {c : Char} (h : c.toNat < 0x80) :
    String.utf8EncodeChar c = [UInt8.ofNat c.toNat] := by
  unfold String.utf8EncodeChar
  rw [show c.val.toNat = c.toNat from rfl]
  exact if_pos (by omega)

/-- A byte that could be a character by itself is one wherever it occurs. -/
theorem toNat_eq_of_mem {c : Char} {b : UInt8} (hmem : b ∈ String.utf8EncodeChar c) (hb : b.toNat < 0x80) :
    c.toNat = b.toNat := by
  have hvalid := toNat_valid c
  unfold String.utf8EncodeChar at hmem
  rw [show c.val.toNat = c.toNat from rfl] at hmem
  dsimp only at hmem
  split_ifs at hmem with hone htwo hthree
  · rw [List.mem_singleton.mp hmem, toNat_ofNat_of_lt (by omega)]
  all_goals
    -- All bytes of a longer encoding are beyond those of one byte.
    simp only [List.mem_cons, List.not_mem_nil, or_false] at hmem
    rcases hmem with rfl | rfl | rfl | rfl <;>
      · rw [toNat_ofNat_of_lt (by omega)] at hb
        omega

/-- A byte that could be a character by itself occurs in an encoding only for that character. -/
theorem mem_encode {text : List Char} {b : UInt8} (hb : b.toNat < 0x80) (hmem : b ∈ encode text) :
    ∃ c ∈ text, c.toNat = b.toNat := by
  obtain ⟨c, hc, hmem⟩ := List.mem_flatMap.mp hmem
  exact ⟨c, hc, toNat_eq_of_mem hmem hb⟩

/-! ## Nothing but encodings -/

/-- The byte strings that spell a text. -/
def WellFormed (bytes : List UInt8) : Prop := ∃ text, encode text = bytes

/-- The first byte of a longer character, by the number of bytes that it announces. -/
theorem lead?_eq_some {b : UInt8} {l : Lead} (h : lead? b = some l) :
    (0xC2 ≤ b.toNat ∧ b.toNat < 0xE0 ∧ l = ⟨1, b.toNat - 0xC0, 0x80, 0xBF⟩) ∨
    (0xE0 ≤ b.toNat ∧ b.toNat < 0xF0 ∧ l = ⟨2, b.toNat - 0xE0, if b.toNat = 0xE0 then 0xA0 else 0x80,
      if b.toNat = 0xED then 0x9F else 0xBF⟩) ∨
    (0xF0 ≤ b.toNat ∧ b.toNat ≤ 0xF4 ∧ l = ⟨3, b.toNat - 0xF0, if b.toNat = 0xF0 then 0x90 else 0x80,
      if b.toNat = 0xF4 then 0x8F else 0xBF⟩) := by
  have hb : UInt8.ofNat b.toNat = b := UInt8.ofNat_toNat
  by_cases htwo : 0xC2 ≤ b.toNat ∧ b.toNat < 0xE0
  · rw [← hb, lead?_two htwo] at h
    exact .inl ⟨htwo.1, htwo.2, (Option.some.inj h).symm⟩
  by_cases hthree : 0xE0 ≤ b.toNat ∧ b.toNat < 0xF0
  · rw [← hb, lead?_three hthree] at h
    exact .inr (.inl ⟨hthree.1, hthree.2, (Option.some.inj h).symm⟩)
  by_cases hfour : 0xF0 ≤ b.toNat ∧ b.toNat ≤ 0xF4
  · rw [← hb, lead?_four hfour] at h
    exact .inr (.inr ⟨hfour.1, hfour.2, (Option.some.inj h).symm⟩)
  -- No other byte announces anything.
  unfold lead? at h
  dsimp only at h
  split_ifs at h <;> omega

/-- The bytes owed, one after the other. -/
theorem complete_eq_some {owed payload low high point : Nat} {bytes left : List UInt8}
    (h : complete (owed + 1) payload low high bytes = (some point, left)) :
    ∃ (b : UInt8) (rest : List UInt8), bytes = b :: rest ∧ low ≤ b.toNat ∧ b.toNat ≤ high ∧
      complete owed (payload * 64 + b.toNat % 64) 0x80 0xBF rest = (some point, left) := by
  cases bytes with
  | nil => simp [complete] at h
  | cons b rest =>
    rw [complete] at h
    split_ifs at h with hrange
    · exact ⟨b, rest, rfl, hrange.1, hrange.2, h⟩
    · simp at h

theorem complete_zero_eq_some {payload low high point : Nat} {bytes left : List UInt8}
    (h : complete 0 payload low high bytes = (some point, left)) : payload = point ∧ bytes = left := by
  simpa [complete] using h

theorem toNat_ofNat_of_valid {n : Nat} (h : n < 0xD800 ∨ 0xDFFF < n ∧ n < 0x110000) : (Char.ofNat n).toNat = n := by
  rw [Char.ofNat, dif_pos h]
  rfl

theorem eq_ofNat {b : UInt8} {n : Nat} (h : b.toNat = n) : b = UInt8.ofNat n := by
  rw [← h, UInt8.ofNat_toNat]

/-! Of a character whose code point was put together from the bytes of its encoding, the encoding is these bytes. -/

theorem utf8EncodeChar_two {b b₁ : UInt8} {c : Char} (hb : 0xC2 ≤ b.toNat ∧ b.toNat < 0xE0)
    (hb₁ : 0x80 ≤ b₁.toNat ∧ b₁.toNat ≤ 0xBF) (hc : c.toNat = (b.toNat - 0xC0) * 64 + b₁.toNat % 64) :
    String.utf8EncodeChar c = [b, b₁] := by
  unfold String.utf8EncodeChar
  rw [show c.val.toNat = c.toNat from rfl]
  dsimp only
  rw [if_neg (by omega), if_pos (by omega), ← eq_ofNat (b := b) (by omega), ← eq_ofNat (b := b₁) (by omega)]

theorem utf8EncodeChar_three {b b₁ b₂ : UInt8} {c : Char} (hb : 0xE0 ≤ b.toNat ∧ b.toNat < 0xF0)
    (hb₁ : 0x80 ≤ b₁.toNat ∧ b₁.toNat ≤ 0xBF) (hb₂ : 0x80 ≤ b₂.toNat ∧ b₂.toNat ≤ 0xBF)
    (hshort : b.toNat = 0xE0 → 0xA0 ≤ b₁.toNat)
    (hc : c.toNat = ((b.toNat - 0xE0) * 64 + b₁.toNat % 64) * 64 + b₂.toNat % 64) :
    String.utf8EncodeChar c = [b, b₁, b₂] := by
  unfold String.utf8EncodeChar
  rw [show c.val.toNat = c.toNat from rfl]
  dsimp only
  rw [if_neg (by omega), if_neg (by omega), if_pos (by omega), ← eq_ofNat (b := b) (by omega),
    ← eq_ofNat (b := b₁) (by omega), ← eq_ofNat (b := b₂) (by omega)]

theorem utf8EncodeChar_four {b b₁ b₂ b₃ : UInt8} {c : Char} (hb : 0xF0 ≤ b.toNat ∧ b.toNat ≤ 0xF4)
    (hb₁ : 0x80 ≤ b₁.toNat ∧ b₁.toNat ≤ 0xBF) (hb₂ : 0x80 ≤ b₂.toNat ∧ b₂.toNat ≤ 0xBF)
    (hb₃ : 0x80 ≤ b₃.toNat ∧ b₃.toNat ≤ 0xBF) (hshort : b.toNat = 0xF0 → 0x90 ≤ b₁.toNat)
    (hc : c.toNat = (((b.toNat - 0xF0) * 64 + b₁.toNat % 64) * 64 + b₂.toNat % 64) * 64 + b₃.toNat % 64) :
    String.utf8EncodeChar c = [b, b₁, b₂, b₃] := by
  unfold String.utf8EncodeChar
  rw [show c.val.toNat = c.toNat from rfl]
  dsimp only
  rw [if_neg (by omega), if_neg (by omega), if_neg (by omega), ← eq_ofNat (b := b) (by omega),
    ← eq_ofNat (b := b₁) (by omega), ← eq_ofNat (b := b₂) (by omega), ← eq_ofNat (b := b₃) (by omega)]

/-! A first byte and the bytes that it owes are the encoding of the character that they complete. -/

theorem encoded_of_complete_two {b : UInt8} {rest left : List UInt8} {point : Nat}
    (hb : 0xC2 ≤ b.toNat ∧ b.toNat < 0xE0) (h : complete 1 (b.toNat - 0xC0) 0x80 0xBF rest = (some point, left)) :
    b :: rest = String.utf8EncodeChar (Char.ofNat point) ++ left := by
  obtain ⟨b₁, _, rfl, hlow₁, hhigh₁, h⟩ := complete_eq_some h
  obtain ⟨hpoint, rfl⟩ := complete_zero_eq_some h
  have hchar : (Char.ofNat point).toNat = point := toNat_ofNat_of_valid (by omega)
  rw [utf8EncodeChar_two hb ⟨hlow₁, hhigh₁⟩ (by omega)]
  rfl

/-- The range of the second byte rules out encodings that are too long, and surrogates. -/
theorem encoded_of_complete_three {b : UInt8} {rest left : List UInt8} {point : Nat}
    (hb : 0xE0 ≤ b.toNat ∧ b.toNat < 0xF0)
    (h : complete 2 (b.toNat - 0xE0) (if b.toNat = 0xE0 then 0xA0 else 0x80) (if b.toNat = 0xED then 0x9F else 0xBF)
      rest = (some point, left)) :
    b :: rest = String.utf8EncodeChar (Char.ofNat point) ++ left := by
  obtain ⟨b₁, _, rfl, hlow₁, hhigh₁, h⟩ := complete_eq_some h
  obtain ⟨b₂, _, rfl, hlow₂, hhigh₂, h⟩ := complete_eq_some h
  obtain ⟨hpoint, rfl⟩ := complete_zero_eq_some h
  have hrange : 0x80 ≤ b₁.toNat ∧ b₁.toNat ≤ 0xBF ∧ (b.toNat = 0xE0 → 0xA0 ≤ b₁.toNat) ∧
      (b.toNat = 0xED → b₁.toNat ≤ 0x9F) := by
    split_ifs at hlow₁ hhigh₁ <;> omega
  have hchar : (Char.ofNat point).toNat = point := toNat_ofNat_of_valid (by omega)
  rw [utf8EncodeChar_three hb ⟨hrange.1, hrange.2.1⟩ ⟨hlow₂, hhigh₂⟩ hrange.2.2.1 (by omega)]
  rfl

/-- The range of the second byte rules out encodings that are too long, and what lies beyond the last code point. -/
theorem encoded_of_complete_four {b : UInt8} {rest left : List UInt8} {point : Nat}
    (hb : 0xF0 ≤ b.toNat ∧ b.toNat ≤ 0xF4)
    (h : complete 3 (b.toNat - 0xF0) (if b.toNat = 0xF0 then 0x90 else 0x80) (if b.toNat = 0xF4 then 0x8F else 0xBF)
      rest = (some point, left)) :
    b :: rest = String.utf8EncodeChar (Char.ofNat point) ++ left := by
  obtain ⟨b₁, _, rfl, hlow₁, hhigh₁, h⟩ := complete_eq_some h
  obtain ⟨b₂, _, rfl, hlow₂, hhigh₂, h⟩ := complete_eq_some h
  obtain ⟨b₃, _, rfl, hlow₃, hhigh₃, h⟩ := complete_eq_some h
  obtain ⟨hpoint, rfl⟩ := complete_zero_eq_some h
  have hrange : 0x80 ≤ b₁.toNat ∧ b₁.toNat ≤ 0xBF ∧ (b.toNat = 0xF0 → 0x90 ≤ b₁.toNat) ∧
      (b.toNat = 0xF4 → b₁.toNat ≤ 0x8F) := by
    split_ifs at hlow₁ hhigh₁ <;> omega
  have hchar : (Char.ofNat point).toNat = point := toNat_ofNat_of_valid (by omega)
  rw [utf8EncodeChar_four hb ⟨hrange.1, hrange.2.1⟩ ⟨hlow₂, hhigh₂⟩ ⟨hlow₃, hhigh₃⟩ hrange.2.2.1 (by omega)]
  rfl

/-- **What is decoded to a character is the encoding of that character.** -/
theorem encoded_of_next {b : UInt8} {rest left : List UInt8} {c : Char} (h : next b rest = (some c, left)) :
    b :: rest = String.utf8EncodeChar c ++ left := by
  unfold next at h
  split_ifs at h with hone
  · obtain ⟨hc, rfl⟩ := Prod.mk.inj h
    have hpoint : c.toNat = b.toNat := by
      rw [← Option.some.inj hc, toNat_ofNat_of_valid (by omega)]
    rw [utf8EncodeChar_of_lt (by omega), hpoint, UInt8.ofNat_toNat, List.singleton_append]
  · cases hlead : lead? b with
    | none => simp [hlead] at h
    | some l =>
      rcases hcomplete : complete l.owed l.payload l.low l.high rest with ⟨_ | point, left'⟩
      · simp [hlead, hcomplete] at h
      · simp only [hlead, hcomplete, Option.map_some, Prod.mk.injEq, Option.some.injEq] at h
        obtain ⟨rfl, rfl⟩ := h
        rcases lead?_eq_some hlead with ⟨hlow, hhigh, rfl⟩ | ⟨hlow, hhigh, rfl⟩ | ⟨hlow, hhigh, rfl⟩
        · exact encoded_of_complete_two ⟨hlow, hhigh⟩ hcomplete
        · exact encoded_of_complete_three ⟨hlow, hhigh⟩ hcomplete
        · exact encoded_of_complete_four ⟨hlow, hhigh⟩ hcomplete

/-- What is decoded without a malformed prefix is the encoding of what it is decoded to. -/
theorem encode_of_pieces {bytes : List UInt8} {text : List Char} (h : pieces bytes = text.map some) :
    encode text = bytes := by
  fun_induction pieces bytes generalizing text with
  | case1 =>
    obtain rfl := List.map_eq_nil_iff.mp h.symm
    rfl
  | case2 b rest ih =>
    cases text with
    | nil => simp at h
    | cons c text =>
      obtain ⟨hc, hrest⟩ := List.cons.inj h
      rw [encode_cons, ih hrest, encoded_of_next (c := c) (Prod.ext hc rfl)]

theorem pieces_of_decode? {bytes : List UInt8} {text : List Char} (h : decode? bytes = some text) :
    pieces bytes = text.map some := by
  unfold decode? at h
  generalize pieces bytes = found at h ⊢
  induction found generalizing text with
  | nil =>
    rw [List.mapM_nil] at h
    obtain rfl : [] = text := Option.some.inj h
    rfl
  | cons piece rest ih =>
    rw [List.mapM_cons] at h
    obtain ⟨c, hc, h⟩ := Option.bind_eq_some_iff.mp h
    obtain ⟨text, hrest, h⟩ := Option.bind_eq_some_iff.mp h
    obtain rfl := Option.some.inj h
    rw [ih hrest, List.map_cons, show piece = some c from hc]

/-- **A byte string is decoded to the text of which it is the encoding.** -/
theorem decode?_eq_some_iff {bytes : List UInt8} {text : List Char} : decode? bytes = some text ↔ encode text = bytes := by
  constructor
  · intro h
    exact encode_of_pieces (pieces_of_decode? h)
  · rintro rfl
    exact decode?_encode text

theorem decode?_eq_none_iff {bytes : List UInt8} : decode? bytes = none ↔ ¬ WellFormed bytes := by
  constructor
  · rintro h ⟨text, htext⟩
    exact absurd (h.symm.trans (decode?_eq_some_iff.mpr htext)) (by simp)
  · intro h
    cases hdecode : decode? bytes with
    | none => rfl
    | some text => exact absurd ⟨text, decode?_eq_some_iff.mp hdecode⟩ h

/-- A byte string without malformed prefixes spells a text. -/
theorem wellFormed_of_pieces {bytes : List UInt8} (h : none ∉ pieces bytes) : WellFormed bytes := by
  have hmap : pieces bytes = ((pieces bytes).map fun c => c.getD (Char.ofNat 0xFFFD)).map some := by
    rw [List.map_map]
    refine (List.map_id _).symm.trans (List.map_congr_left fun c hc => ?_)
    cases c with
    | none => exact absurd hc h
    | some c => rfl
  exact ⟨_, encode_of_pieces hmap⟩

/-- A text is repaired to itself. -/
theorem repair_encode (text : List Char) : repair (encode text) = text := by
  rw [repair, pieces_encode, List.map_map]
  exact List.map_id text

/-- **What spells no text shows that it was repaired.** -/
theorem replacement_mem_repair {bytes : List UInt8} (h : ¬ WellFormed bytes) :
    Char.ofNat 0xFFFD ∈ repair bytes := by
  have hmalformed : none ∈ pieces bytes := by
    by_contra hnone
    exact h (wellFormed_of_pieces hnone)
  exact List.mem_map.mpr ⟨none, hmalformed, rfl⟩

end DecoderHost.Text.Utf8

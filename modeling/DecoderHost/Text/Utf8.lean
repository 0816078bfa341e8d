/-!
UTF-8. `pieces` cuts a byte string into characters and malformed prefixes, each malformed prefix as
long as it could still have begun a character. `decode?` accepts a byte string without malformed
prefixes, and `repair` puts one replacement character in the place of each.
-/

namespace DecoderHost.Text.Utf8

/-- What the first byte of a longer character announces: the number of bytes owed, its share of the
code point, and the range of the byte after it. -/
structure Lead where
  owed : Nat
  payload : Nat
  low : Nat
  high : Nat

/-- The announcement of a first byte, unless no longer character starts with it. -/
def lead? (b : UInt8) : Option Lead :=
  let n := b.toNat
  if n < 0xC2 then none
  else if n < 0xE0 then some ⟨1, n - 0xC0, 0x80, 0xBF⟩
  else if n = 0xE0 then some ⟨2, 0, 0xA0, 0xBF⟩
  else if n = 0xED then some ⟨2, 0xD, 0x80, 0x9F⟩
  else if n < 0xF0 then some ⟨2, n - 0xE0, 0x80, 0xBF⟩
  else if n = 0xF0 then some ⟨3, 0, 0x90, 0xBF⟩
  else if n < 0xF4 then some ⟨3, n - 0xF0, 0x80, 0xBF⟩
  else if n = 0xF4 then some ⟨3, 4, 0x80, 0x8F⟩
  else none

/-- Take the owed bytes: the code point they complete, if they do, and what is left. The first byte out
of range stays. -/
def complete : Nat → Nat → Nat → Nat → List UInt8 → Option Nat × List UInt8
  | 0, payload, _, _, rest => (some payload, rest)
  | _ + 1, _, _, _, [] => (none, [])
  | owed + 1, payload, low, high, b :: rest =>
    if low ≤ b.toNat ∧ b.toNat ≤ high then
      complete owed (payload * 64 + b.toNat % 64) 0x80 0xBF rest
    else (none, b :: rest)

/-- The first character of the byte string that begins with `b`, if it is well formed, and what is left
after it or after the malformed prefix. -/
def next (b : UInt8) (rest : List UInt8) : Option Char × List UInt8 :=
  if b.toNat < 0x80 then (some (Char.ofNat b.toNat), rest)
  else match lead? b with
    | none => (none, rest)
    | some l =>
      let (point, left) := complete l.owed l.payload l.low l.high rest
      (point.map Char.ofNat, left)

theorem length_complete_le (owed payload low high : Nat) (bytes : List UInt8) :
    (complete owed payload low high bytes).2.length ≤ bytes.length := by
  induction owed generalizing payload low high bytes with
  | zero => simp [complete]
  | succ n ih =>
    cases bytes with
    | nil => simp [complete]
    | cons b rest =>
      simp only [complete]
      split
      · exact Nat.le_trans (ih ..) (Nat.le_succ _)
      · simp

theorem length_next_le (b : UInt8) (rest : List UInt8) : (next b rest).2.length ≤ rest.length := by
  unfold next
  split
  · simp
  · split
    · simp
    · exact length_complete_le ..

/-- The characters of a byte string, with `none` for each malformed prefix. -/
def pieces : List UInt8 → List (Option Char)
  | [] => []
  | b :: rest => (next b rest).1 :: pieces (next b rest).2
termination_by bytes => bytes.length
decreasing_by
  have := length_next_le b rest
  simp only [List.length_cons]
  omega

/-- The text that a byte string spells, if it is well formed. -/
def decode? (bytes : List UInt8) : Option (List Char) :=
  (pieces bytes).mapM id

/-- The text that a byte string spells, with U+FFFD for each malformed prefix. -/
def repair (bytes : List UInt8) : List Char :=
  (pieces bytes).map fun c => c.getD (Char.ofNat 0xFFFD)

/-- The bytes of a text. -/
def encode (text : List Char) : List UInt8 :=
  text.flatMap String.utf8EncodeChar

end DecoderHost.Text.Utf8

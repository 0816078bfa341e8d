import DecoderHost.Text.Numeral
import DecoderHost.Word

/-!
SipHash with one round for each word and three to finish, under the zero key, and the content hash of a
byte string: the hash of its length as a little-endian word of eight bytes followed by the bytes.
-/

namespace DecoderHost.SipHash

/-- The four words of the running hash. -/
structure State where
  v0 : UInt64
  v1 : UInt64
  v2 : UInt64
  v3 : UInt64
  deriving DecidableEq, Repr

/-- Rotate to the left by less than the width of a word. -/
def rotate (x : UInt64) (count : UInt64) : UInt64 :=
  (x <<< count) ||| (x >>> (64 - count))

/-- The words before any input, for the zero key. -/
def initial : State :=
  ⟨0x736f6d6570736575, 0x646f72616e646f6d, 0x6c7967656e657261, 0x7465646279746573⟩

/-- Mix the words once. -/
def State.round (s : State) : State :=
  let v0 := s.v0 + s.v1
  let v1 := rotate s.v1 13 ^^^ v0
  let v0 := rotate v0 32
  let v2 := s.v2 + s.v3
  let v3 := rotate s.v3 16 ^^^ v2
  let v0 := v0 + v3
  let v3 := rotate v3 21 ^^^ v0
  let v2 := v2 + v1
  let v1 := rotate v1 17 ^^^ v2
  let v2 := rotate v2 32
  ⟨v0, v1, v2, v3⟩

/-- Take in one word. -/
def State.absorb (s : State) (word : UInt64) : State :=
  let mixed := { s with v3 := s.v3 ^^^ word }.round
  { mixed with v0 := mixed.v0 ^^^ word }

/-- The hash when all input has been taken in. -/
def State.finish (s : State) : UInt64 :=
  let mixed := { s with v2 := s.v2 ^^^ 0xff }.round.round.round
  mixed.v0 ^^^ mixed.v1 ^^^ mixed.v2 ^^^ mixed.v3

/-- Take in all whole words of the input; the last word holds the bytes left over, and the length of the
whole input in its top byte. -/
def absorbAll (length : Nat) : State → List UInt8 → State
  | s, a :: b :: c :: d :: e :: f :: g :: h :: rest =>
    absorbAll length (s.absorb (UInt64.ofNat (Word.ofLittleEndian [a, b, c, d, e, f, g, h]))) rest
  | s, rest => s.absorb (UInt64.ofNat (Word.ofLittleEndian rest + (length % 256) * Nat.pow 2 56))

/-- The hash of a byte string. -/
def hash (bytes : List UInt8) : UInt64 :=
  (absorbAll bytes.length initial bytes).finish

/-- The content hash of a byte string, in sixteen hexadecimal digits. -/
def contentHash (bytes : List UInt8) : String :=
  let number := hash (Word.littleEndian 8 bytes.length ++ bytes)
  Text.hexBytes (Word.littleEndian 8 number.toNat).reverse

end DecoderHost.SipHash

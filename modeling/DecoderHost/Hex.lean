import DecoderHost.Text.Quoted
import DecoderHost.Text.Utf8

/-!
Bytes spelled in hexadecimal: two digits for each byte, in either case, the high digit first. An opcode
may have `0x`, `0X` or both in this order in front.

The spelling is looked at byte by byte. That there is an odd number of bytes is reported before any byte
that is no digit, and of those the first is reported with its place.
-/

namespace DecoderHost

/-- Why a text spells no bytes. -/
inductive HexError where
  | oddLength
  | invalidCharacter (byte : UInt8) (index : Nat)
  deriving DecidableEq, Repr

/-- The wording of an error; a byte stands for the character with its number. -/
def HexError.message : HexError → String
  | oddLength => "Odd number of digits"
  | invalidCharacter byte index =>
    s!"Invalid character {Text.quotedChar (Char.ofNat byte.toNat)} at position {index}"

namespace Hex

/-- The value of a digit. -/
def digit? (b : UInt8) : Option Nat :=
  let n := b.toNat
  if 48 ≤ n ∧ n ≤ 57 then some (n - 48)
  else if 97 ≤ n ∧ n ≤ 102 then some (n - 87)
  else if 65 ≤ n ∧ n ≤ 70 then some (n - 55)
  else none

/-- Decode pairs of digits of which the first stands at `index`; the bytes decoded so far are kept in
reverse. -/
def decodePairs (index : Nat) (decoded : List UInt8) : List UInt8 → Except HexError (List UInt8)
  | high :: low :: rest =>
    match digit? high with
    | none => .error (.invalidCharacter high index)
    | some h =>
      match digit? low with
      | none => .error (.invalidCharacter low (index + 1))
      | some l => decodePairs (index + 2) (UInt8.ofNat (16 * h + l) :: decoded) rest
  | _ => .ok decoded.reverse

/-- The bytes that digits spell. -/
def decode (digits : List UInt8) : Except HexError (List UInt8) :=
  if digits.length % 2 = 1 then .error .oddLength else decodePairs 0 [] digits

/-- The text without `0x` in front. -/
def withoutLowerPrefix : List Char → List Char
  | '0' :: 'x' :: rest => rest
  | text => text

/-- The text without `0X` in front. -/
def withoutUpperPrefix : List Char → List Char
  | '0' :: 'X' :: rest => rest
  | text => text

/-- The digits of an opcode: the text without `0x` and then `0X` in front. -/
def opcodeDigits (text : String) : String :=
  String.ofList (withoutUpperPrefix (withoutLowerPrefix text.toList))

/-- The bytes of an opcode. -/
def opcode (text : String) : Except HexError (List UInt8) :=
  decode (Text.Utf8.encode (opcodeDigits text).toList)

end Hex

end DecoderHost

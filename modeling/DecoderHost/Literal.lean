import DecoderHost.Hex
import DecoderHost.Text.Blank

/-!
Byte slices written as `[]byte{0x41, 0x8, ...}` in lines of text.

Of each line the first complete literal counts; a line without one is passed over. The elements of a
literal are separated by commas, may have blanks around them, and lose one `0x` in front; an element of a
single byte gets a zero in front. The digits of all elements together spell the bytes.
-/

namespace DecoderHost

/-- Why the lines hold no bytes. -/
inductive LiteralError where
  | notText
  | invalidLiteral (line : Nat) (body : String) (error : HexError)
  deriving DecidableEq, Repr

namespace LiteralError

/-- The wording of an error. -/
def message : LiteralError → String
  | notText => "failed to read standard input"
  | invalidLiteral line body _ => s!"line {line}: invalid byte literal `{body}`"

/-- The failures behind this one, outermost first. -/
def causes : LiteralError → List String
  | notText => ["stream did not contain valid UTF-8"]
  | invalidLiteral _ _ error => [error.message]

end LiteralError

namespace Literal

/-! ## Lines -/

/-- A line given in reverse, without a carriage return at its end. -/
def chomp : List UInt8 → List UInt8
  | 13 :: line => line.reverse
  | line => line.reverse

/-- The lines of a text, of which the first has begun with `begun`, given in reverse. A line feed ends a
line and goes with a carriage return before it. What follows the last line feed is a line unless it is
empty. -/
def linesFrom (begun : List UInt8) : List UInt8 → List (List UInt8)
  | [] => if begun.isEmpty then [] else [begun.reverse]
  | b :: rest => if b = 10 then chomp begun :: linesFrom [] rest else linesFrom (b :: begun) rest

/-- The lines of a text. -/
def lines (bytes : List UInt8) : List (List UInt8) := linesFrom [] bytes

/-! ## One literal -/

/-- What a literal starts with. -/
def opening : List Char := "[]byte\x7b".toList

/-- What follows the first opening of a literal. -/
def afterOpening? : List Char → Option (List Char)
  | [] => none
  | c :: rest =>
    if opening.isPrefixOf (c :: rest) then some ((c :: rest).drop opening.length)
    else afterOpening? rest

/-- What stands before the first closing brace. -/
def beforeClosing? (text : List Char) : Option (List Char) :=
  if '\x7d' ∈ text then some (text.takeWhile (· ≠ '\x7d')) else none

/-- The inside of the first literal of a line. -/
def body? (line : List Char) : Option (List Char) :=
  (afterOpening? line).bind beforeClosing?

/-- The parts between commas, of which the first has begun with `begun`, given in reverse. -/
def elementsFrom (begun : List Char) : List Char → List (List Char)
  | [] => [begun.reverse]
  | c :: rest =>
    if c = ',' then begun.reverse :: elementsFrom [] rest else elementsFrom (c :: begun) rest

/-- The parts between commas. -/
def elements (body : List Char) : List (List Char) := elementsFrom [] body

/-- The digits of an element. -/
def elementDigits (element : List Char) : List UInt8 :=
  match Text.Utf8.encode (Hex.withoutLowerPrefix (Text.trim element)) with
  | [digit] => [48, digit]
  | digits => digits

/-- The bytes of a literal. -/
def decodeBody (body : List Char) : Except HexError (List UInt8) :=
  Hex.decode ((elements body).flatMap elementDigits)

/-! ## All literals -/

/-- The bytes of the line with a number. -/
def decodeLine (number : Nat) (line : List UInt8) : Except LiteralError (List UInt8) :=
  match Text.Utf8.decode? line with
  | none => .error .notText
  | some text =>
    match body? text with
    | none => .ok []
    | some body =>
      match decodeBody body with
      | .ok bytes => .ok bytes
      | .error e => .error (.invalidLiteral number (String.ofList body) e)

/-- The bytes of lines of which the first has a number. -/
def decodeLines (number : Nat) : List (List UInt8) → Except LiteralError (List UInt8)
  | [] => .ok []
  | line :: rest =>
    match decodeLine number line with
    | .error e => .error e
    | .ok bytes => (decodeLines (number + 1) rest).map (bytes ++ ·)

/-- The bytes of all literals in a text. -/
def decode (text : List UInt8) : Except LiteralError (List UInt8) :=
  decodeLines 1 (lines text)

end Literal

end DecoderHost

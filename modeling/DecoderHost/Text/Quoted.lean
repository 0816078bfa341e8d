import DecoderHost.Text.Extending
import DecoderHost.Text.Numeral
import DecoderHost.Text.Unprintable

/-!
Quoted text in diagnostics. Backslash, tab, line feed, carriage return, NUL and the quotation mark in
use get short escapes; a character that is unprintable or attaches to the one before it is written as its
hexadecimal code point.
-/

namespace DecoderHost.Text

/-- One character between quotation marks of the kind `mark`. -/
def escape (mark c : Char) : List Char :=
  if c = '\x00' then ['\\', '0']
  else if c = '\t' then ['\\', 't']
  else if c = '\r' then ['\\', 'r']
  else if c = '\n' then ['\\', 'n']
  else if c = '\\' then ['\\', '\\']
  else if c = mark then ['\\', mark]
  else if isUnprintable c || isExtending c then
    ['\\', 'u', '\x7b'] ++ Nat.toDigits 16 c.toNat ++ ['\x7d']
  else [c]

/-- A text in double quotation marks. -/
def quoted (text : String) : String :=
  String.ofList ('"' :: text.toList.flatMap (escape '"') ++ ['"'])

/-- A character in single quotation marks. -/
def quotedChar (c : Char) : String :=
  String.ofList ('\'' :: escape '\'' c ++ ['\''])

/-- An optional text: quoted inside `Some`, or `None`. -/
def quotedOption : Option String → String
  | none => "None"
  | some text => "Some(" ++ quoted text ++ ")"

end DecoderHost.Text

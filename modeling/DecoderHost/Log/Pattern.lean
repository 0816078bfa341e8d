import DecoderHost.Regex

/-!
The values that a log filter may ask a field for: a number, or a regular expression. Nothing is matched here;
only whether a text is such a value is told.
-/

namespace DecoderHost.LogPattern

/-- Are these digits with at most one point among them? -/
def isPlainNumeral (text : List Char) : Bool :=
  text.any Char.isDigit && text.all (fun c => c.isDigit || c == '.') && text.count '.' ≤ 1

/-- The text without a sign in front. -/
def unsigned (text : List Char) : List Char :=
  if text.head? = some '+' ∨ text.head? = some '-' then text.tail else text

/-- Is the text a number, perhaps infinite or none at all? -/
def isNumber (text : List Char) : Bool :=
  let magnitude := (unsigned text).map Char.toLower
  ["inf", "infinity", "nan"].any (·.toList == magnitude) ||
    isPlainNumeral (magnitude.takeWhile (· != 'e')) &&
      match magnitude.dropWhile (· != 'e') with
      | [] => true
      | _ :: exponent => !(unsigned exponent).isEmpty && (unsigned exponent).all Char.isDigit

/-- Why a field cannot be asked for a value, if it cannot. -/
def fault? (text : String) : Option Regex.Fault :=
  if isNumber text.toList then none else Regex.fault? text.toList

end DecoderHost.LogPattern

import DecoderHost.Text.Numeral

/-!
Writing a text as a TOML string in its plainest form: a basic string if nothing needs an escape, else a
literal string, else the multi-line forms, and a basic string with escapes if all of these fail. A
multi-line form of a text with line breaks starts on a line of its own.
-/

namespace DecoderHost.Toml

/-- The longest run of a character in a text. -/
def longestRun (c : Char) (text : List Char) : Nat :=
  (text.foldl (fun (best, run) d =>
    let run := if d = c then run + 1 else 0
    (max best run, run)) (0, 0)).1

/-- Is the character a control that only an escape can show? Tab and line feed are none. -/
def needsEscapeCode (c : Char) : Bool :=
  (c.toNat ≤ 0x1F && c ≠ '\t' && c ≠ '\n') || c.toNat = 0x7F

/-- Four upper-case hexadecimal digits. -/
def fourDigits (n : Nat) : List Char :=
  let digits := (Nat.toDigits 16 n).map Char.toUpper
  List.replicate (4 - digits.length) '0' ++ digits

/-- The inside of a basic string; `quotes` double quotes may stand in a row as themselves, of which `run`
have just been written. -/
def escapeBasic (isMultiline : Bool) (quotes : Nat) : Nat → List Char → List Char
  | _, [] => []
  | run, c :: rest =>
    let continueAt (run : Nat) := escapeBasic isMultiline quotes run rest
    if c = '"' then
      if run + 1 ≤ quotes then '"' :: continueAt (run + 1) else '\\' :: '"' :: continueAt 0
    else if c = '\x08' then '\\' :: 'b' :: continueAt 0
    else if c = '\t' then '\\' :: 't' :: continueAt 0
    else if c = '\n' then
      if isMultiline then '\n' :: continueAt 0 else '\\' :: 'n' :: continueAt 0
    else if c = '\x0c' then '\\' :: 'f' :: continueAt 0
    else if c = '\r' then '\\' :: 'r' :: continueAt 0
    else if c = '\\' then '\\' :: '\\' :: continueAt 0
    else if needsEscapeCode c then '\\' :: 'u' :: fourDigits c.toNat ++ continueAt 0
    else c :: continueAt 0

/-- A text as a basic string on one line. -/
def basicString (text : List Char) : List Char :=
  ['"'] ++ escapeBasic false 0 0 text ++ ['"']

/-- A text as a multi-line basic string. -/
def multilineBasicString (text : List Char) : List Char :=
  let start := if '\n' ∈ text then ['\n'] else []
  ['"', '"', '"'] ++ start ++ escapeBasic true 2 0 text ++ ['"', '"', '"']

/-- A text as a literal string on one line. -/
def literalString (text : List Char) : List Char :=
  ['\''] ++ text ++ ['\'']

/-- A text as a multi-line literal string. -/
def multilineLiteralString (text : List Char) : List Char :=
  let start := if '\n' ∈ text then ['\n'] else []
  ['\'', '\'', '\''] ++ start ++ text ++ ['\'', '\'', '\'']

/-- A text as a string. -/
def writeString (text : String) : String :=
  let chars := text.toList
  let hasCodes := chars.any needsEscapeCode
  let hasBackslash := '\\' ∈ chars
  let hasLineBreak := '\n' ∈ chars
  let doubles := longestRun '"' chars
  let singles := longestRun '\'' chars
  String.ofList <|
    if !hasCodes ∧ ¬hasBackslash ∧ doubles = 0 ∧ ¬hasLineBreak then basicString chars
    else if !hasCodes ∧ singles = 0 ∧ ¬hasLineBreak then literalString chars
    else if !hasCodes ∧ ¬hasBackslash ∧ doubles ≤ 2 then multilineBasicString chars
    else if !hasCodes ∧ singles ≤ 2 then multilineLiteralString chars
    else if hasLineBreak then multilineBasicString chars
    else basicString chars

end DecoderHost.Toml

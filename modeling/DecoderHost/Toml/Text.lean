import DecoderHost.Text.Numeral

/-!
TOML strings: basic and literal, on one line or on several.

Each reader starts behind the opening quotes and gives the text and what follows the closing quotes. A
line break inside a string is read as a line feed, also when it is written as carriage return and line
feed. A backslash at the end of a line of a multi-line basic string swallows all white space up to the
next character.
-/

namespace DecoderHost.Toml

/-- Blanks inside a line. -/
def isSpace (c : Char) : Bool := c = ' ' || c = '\t'

/-- Characters that may stand for themselves in comments and literal strings, quotes aside. -/
def isPlain (c : Char) : Bool :=
  c = '\t' || (0x20 ≤ c.toNat && c.toNat ≤ 0x7E) || 0x80 ≤ c.toNat

/-- The character that a one-letter escape stands for. -/
def shortEscape? : Char → Option Char
  | 'b' => some '\x08'
  | 't' => some '\t'
  | 'n' => some '\n'
  | 'f' => some '\x0c'
  | 'r' => some '\r'
  | '"' => some '"'
  | '\\' => some '\\'
  | _ => none

/-- Put a character in front of the text that was read. -/
def prepend (c : Char) (read : Option (List Char × List Char)) : Option (List Char × List Char) :=
  read.map fun (text, rest) => (c :: text, rest)

/-- The rest of a basic string on one line. -/
def readBasic : List Char → Option (List Char × List Char)
  | '"' :: rest => some ([], rest)
  | '\\' :: 'u' :: a :: b :: c :: d :: rest =>
    match (Text.hexNumber? [a, b, c, d]).bind Text.scalar? with
    | some point => prepend point (readBasic rest)
    | none => none
  | '\\' :: 'U' :: a :: b :: c :: d :: e :: f :: g :: h :: rest =>
    match (Text.hexNumber? [a, b, c, d, e, f, g, h]).bind Text.scalar? with
    | some point => prepend point (readBasic rest)
    | none => none
  | '\\' :: letter :: rest =>
    match shortEscape? letter with
    | some c => prepend c (readBasic rest)
    | none => none
  | c :: rest => if c ≠ '\\' && isPlain c then prepend c (readBasic rest) else none
  | [] => none

/-- The rest of a literal string on one line. -/
def readLiteral : List Char → Option (List Char × List Char)
  | '\'' :: rest => some ([], rest)
  | c :: rest => if isPlain c then prepend c (readLiteral rest) else none
  | [] => none

/-- Where the reader of a multi-line basic string stands: in the text, behind a backslash that must be the
last of its line, or in the white space that such a backslash swallows. -/
inductive Fold where
  | text | lineEnd | swallow
  deriving DecidableEq, Repr

/-- The rest of a multi-line basic string. Up to two quotes are text, also in front of the closing
three. -/
def readMultilineBasic : Fold → List Char → Option (List Char × List Char)
  | .lineEnd, '\n' :: rest => readMultilineBasic .swallow rest
  | .lineEnd, '\r' :: '\n' :: rest => readMultilineBasic .swallow rest
  | .lineEnd, c :: rest => if isSpace c then readMultilineBasic .lineEnd rest else none
  | .swallow, '\r' :: '\n' :: rest => readMultilineBasic .swallow rest
  | _, '"' :: '"' :: '"' :: '"' :: '"' :: '"' :: _ => none
  | _, '"' :: '"' :: '"' :: '"' :: '"' :: rest => some (['"', '"'], rest)
  | _, '"' :: '"' :: '"' :: '"' :: rest => some (['"'], rest)
  | _, '"' :: '"' :: '"' :: rest => some ([], rest)
  | _, '\\' :: 'u' :: a :: b :: c :: d :: rest =>
    match (Text.hexNumber? [a, b, c, d]).bind Text.scalar? with
    | some point => prepend point (readMultilineBasic .text rest)
    | none => none
  | _, '\\' :: 'U' :: a :: b :: c :: d :: e :: f :: g :: h :: rest =>
    match (Text.hexNumber? [a, b, c, d, e, f, g, h]).bind Text.scalar? with
    | some point => prepend point (readMultilineBasic .text rest)
    | none => none
  | _, '\\' :: '\n' :: rest => readMultilineBasic .swallow rest
  | _, '\\' :: '\r' :: '\n' :: rest => readMultilineBasic .swallow rest
  | _, '\\' :: letter :: rest =>
    if isSpace letter then readMultilineBasic .lineEnd rest
    else match shortEscape? letter with
      | some c => prepend c (readMultilineBasic .text rest)
      | none => none
  | _, '\r' :: '\n' :: rest => prepend '\n' (readMultilineBasic .text rest)
  | fold, c :: rest =>
    if fold = .swallow && (isSpace c || c = '\n') then readMultilineBasic .swallow rest
    else if c = '\n' || (c ≠ '\\' && isPlain c) then prepend c (readMultilineBasic .text rest)
    else none
  | _, [] => none

/-- The rest of a multi-line literal string. -/
def readMultilineLiteral : List Char → Option (List Char × List Char)
  | '\'' :: '\'' :: '\'' :: '\'' :: '\'' :: '\'' :: _ => none
  | '\'' :: '\'' :: '\'' :: '\'' :: '\'' :: rest => some (['\'', '\''], rest)
  | '\'' :: '\'' :: '\'' :: '\'' :: rest => some (['\''], rest)
  | '\'' :: '\'' :: '\'' :: rest => some ([], rest)
  | '\r' :: '\n' :: rest => prepend '\n' (readMultilineLiteral rest)
  | c :: rest => if c = '\n' || isPlain c then prepend c (readMultilineLiteral rest) else none
  | [] => none

/-- The text without a line break at its start. -/
def dropLineBreak : List Char → List Char
  | '\n' :: rest => rest
  | '\r' :: '\n' :: rest => rest
  | rest => rest

/-- A string on one line. -/
def readLineString : List Char → Option (List Char × List Char)
  | '"' :: rest => readBasic rest
  | '\'' :: rest => readLiteral rest
  | _ => none

/-- A string of any kind. -/
def readString : List Char → Option (List Char × List Char)
  | '"' :: '"' :: '"' :: rest => readMultilineBasic .text (dropLineBreak rest)
  | '\'' :: '\'' :: '\'' :: rest => readMultilineLiteral (dropLineBreak rest)
  | rest => readLineString rest

end DecoderHost.Toml

import DecoderHost.Regex.Flags
import DecoderHost.Text.Numeral

/-!
The atoms of regular expressions: characters, anchors and classes with a name, each written as itself or
behind a backslash.

There are no tables of Unicode properties. So letters match in either case, and digits, white space and word
characters have their classes, only where characters are those of ASCII; and there nothing may match a part of
a character beyond ASCII.
-/

namespace DecoderHost.Regex

/-- What matches one character, or an empty text at some places. -/
inductive Atom where
  /-- A character, which its number in two hexadecimal digits may stand for. -/
  | literal (c : Char) (isNumbered : Bool)
  | anything
  /-- An end of the text or of a line. -/
  | anchor
  /-- An end of a word, or no end of one. -/
  | wordBoundary
  /-- The digits, white space or word characters, or all others. -/
  | kind (isNegated : Bool)
  deriving DecidableEq, Repr

namespace Atom

/-- Can the atom be matched under these flags? -/
def isSupported (flags : Flags) : Atom → Bool
  | literal c isNumbered =>
    if flags.unicode then !flags.caseless else !isNumbered || c.toNat < 128
  | anything => flags.unicode
  | anchor | wordBoundary => true
  | kind isNegated => !flags.unicode && !isNegated

/-- Can the atom stand in brackets under these flags? -/
def isMember (flags : Flags) : Atom → Bool
  | literal c _ => if flags.unicode then !flags.caseless else c.toNat < 128
  | anything | anchor | wordBoundary => false
  | kind isNegated => !flags.unicode && !isNegated

/-- Do two atoms span a range of characters? -/
def isRange : Atom → Atom → Bool
  | literal first _, literal last _ => first.toNat ≤ last.toNat
  | _, _ => false

end Atom

/-- The control character that a letter behind a backslash stands for. -/
def control? : Char → Option Char
  | 'a' => some '\x07'
  | 't' => some '\t'
  | 'n' => some '\n'
  | 'v' => some '\x0b'
  | 'f' => some '\x0c'
  | 'r' => some '\r'
  | _ => none

/-- A character by its number, of so many hexadecimal digits. -/
def readNumbered (flags : Flags) (digits : Nat) (text : List Char) : Option (Atom × List Char) := do
  let (spelled, rest) ← flags.take digits (flags.skip text)
  let c ← (Text.hexNumber? spelled).bind Text.scalar?
  some (.literal c (digits == 2), rest)

/-- The atom behind a backslash. A mark of ASCII stands for itself there, angles apart. -/
def readEscape (flags : Flags) : List Char → Option (Atom × List Char)
  | [] => none
  | c :: rest =>
    match c with
    | 'x' => readNumbered flags 2 rest
    | 'u' => readNumbered flags 4 rest
    | 'U' => readNumbered flags 8 rest
    | 'd' | 's' | 'w' => some (.kind false, rest)
    | 'D' | 'S' | 'W' => some (.kind true, rest)
    | 'A' | 'z' => some (.anchor, rest)
    | 'b' | 'B' | '<' | '>' => some (.wordBoundary, rest)
    | _ =>
      if c.toNat < 128 ∧ !c.isAlphanum then some (.literal c false, rest)
      else (control? c).map fun meant => (.literal meant false, rest)

/-- The atom at the start of a text, outside of brackets. -/
def readAtom (flags : Flags) : List Char → Option (Atom × List Char)
  | [] => none
  | '\\' :: rest => readEscape flags rest
  | '.' :: rest => some (.anything, rest)
  | '^' :: rest | '$' :: rest => some (.anchor, rest)
  | c :: rest => some (.literal c false, rest)

/-- The atom at the start of a text in brackets, where no mark but the backslash has a meaning. -/
def readMember (flags : Flags) : List Char → Option (Atom × List Char)
  | [] => none
  | '\\' :: rest => readEscape flags rest
  | c :: rest => some (.literal c false, rest)

end DecoderHost.Regex

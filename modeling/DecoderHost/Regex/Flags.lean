import DecoderHost.Text.Blank

/-!
The flags of a regular expression, and the blanks that one of them allows.

Flags are set by their letters, and cleared by those behind a dash: `(?u-i)`. A change holds up to the end of
the group that it stands in, or for the group that it opens, as in `(?x:a b)`.
-/

namespace DecoderHost.Regex

/-- The flags that decide which expressions there are: whether letters match in either case, whether
characters are those of Unicode or ASCII ones, and whether there may be blanks between items. -/
structure Flags where
  caseless : Bool := false
  unicode : Bool := true
  spaced : Bool := false
  deriving DecidableEq, Repr

namespace Flags

/-- The letters of all flags. -/
def letters : List Char := ['i', 'm', 's', 'U', 'u', 'R', 'x']

/-- Set or clear the flag with a letter. Some flags only decide what an expression matches. -/
def set (flags : Flags) (letter : Char) (value : Bool) : Flags :=
  match letter with
  | 'i' => { flags with caseless := value }
  | 'u' => { flags with unicode := value }
  | 'x' => { flags with spaced := value }
  | _ => flags

/-- The flags after a change, which `:` or `)` must follow. No letter stands in it twice, and a dash stands
in it at most once and before a letter. -/
def readChange (flags : Flags) (seen : List Char) : List Char → Option (Flags × List Char)
  | [] => none
  | c :: rest =>
    if c = ':' ∨ c = ')' then
      if seen.head? = some '-' then none else some (flags, c :: rest)
    else if seen.contains c then none
    else if c = '-' then readChange flags ('-' :: seen) rest
    else if letters.contains c then readChange (flags.set c (!seen.contains '-')) (c :: seen) rest
    else none

end Flags

/-! ## Blanks -/

/-- The text without white space and comments in front; a comment goes from `#` to the end of its line. -/
def skipBlanks (inComment : Bool) : List Char → List Char
  | [] => []
  | c :: rest =>
    if inComment then skipBlanks (c ≠ '\n') rest
    else if Text.isBlank c then skipBlanks false rest
    else if c = '#' then skipBlanks true rest
    else c :: rest

namespace Flags

/-- The text without the blanks in front that the flags allow. -/
def skip (flags : Flags) (text : List Char) : List Char :=
  if flags.spaced then skipBlanks false text else text

/-- So many characters, with blanks between and behind them, and what follows. -/
def take (flags : Flags) : Nat → List Char → Option (List Char × List Char)
  | 0, text => some ([], text)
  | _ + 1, [] => none
  | count + 1, c :: rest => do
    let (taken, rest) ← flags.take count (flags.skip rest)
    some (c :: taken, rest)

end Flags

end DecoderHost.Regex

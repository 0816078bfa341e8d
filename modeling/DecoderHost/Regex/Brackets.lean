import DecoderHost.Regex.Atom

/-!
Sets of characters in brackets: members, ranges of them, classes such as `[:alpha:]` and further brackets side
by side, and between such unions the operators `&&`, `--` and `~~`. A caret in front negates the set. Behind
it, dashes stand for themselves, and so does a closing bracket if it comes first.

Reading a set gives its depth: how many unions, operators and brackets lie around its innermost member.
-/

namespace DecoderHost.Regex

/-- The depth of parts side by side; a single part stands for itself. -/
def besideDepth : List Nat → Nat
  | [] => 0
  | [depth] => depth
  | depths => 1 + depths.foldl max 0

/-- A set so far: the depth of what an operator has on its left, if there is one, and the depths of the parts
behind it. -/
structure Filling where
  left : Option Nat := none
  parts : List Nat := []

namespace Filling

/-- The set with a further part. -/
def add (filling : Filling) (depth : Nat) : Filling := { filling with parts := depth :: filling.parts }

/-- The depth of the set. -/
def depth (filling : Filling) : Nat :=
  match filling.left with
  | none => besideDepth filling.parts
  | some left => 1 + max left (besideDepth filling.parts)

/-- The set as the left side of an operator. -/
def operand (filling : Filling) : Filling := { left := some filling.depth }

end Filling

/-- The names of classes. -/
def classNames : List String :=
  ["alnum", "alpha", "ascii", "blank", "cntrl", "digit", "graph", "lower", "print", "punct", "space", "upper",
    "word", "xdigit"]

/-- A class from behind its bracket: whether a caret negates it, and what follows. -/
def readClass : List Char → Option (Bool × List Char)
  | ':' :: rest =>
    let (isNegated, rest) := match rest with
      | '^' :: rest => (true, rest)
      | rest => (false, rest)
    let name := String.ofList (rest.takeWhile (· ≠ ':'))
    match rest.dropWhile (· ≠ ':') with
    | ':' :: ']' :: after => if classNames.contains name then some (isNegated, after) else none
    | _ => none
  | _ => none

/-- Is a class supported under these flags? -/
def isClassSupported (flags : Flags) (isNegated : Bool) : Bool :=
  if flags.unicode then !flags.caseless else !isNegated

/-- The character that a dash stands before. Of comments only the mark is passed over. -/
def afterDash (flags : Flags) (text : List Char) : Option Char :=
  if flags.spaced then
    match text.dropWhile Text.isBlank with
    | '#' :: rest => (rest.dropWhile Text.isBlank).head?
    | rest => rest.head?
  else text.head?

/-- A member, or a range with a dash between its ends; what follows it. -/
def readRange (flags : Flags) (text : List Char) : Option (List Char) := do
  let (first, rest) ← readMember flags text
  if !first.isMember flags then none
  match flags.skip rest with
  | '-' :: after =>
    if afterDash flags after = some ']' ∨ afterDash flags after = some '-' then some ('-' :: after)
    else
      let (last, rest) ← readMember flags (flags.skip after)
      if last.isMember flags && first.isRange last then some rest else none
  | rest => some rest

/-- Brackets from behind the first one: what follows a caret, if the flags allow to negate a set. -/
def openBrackets (flags : Flags) (text : List Char) : Option (List Char) :=
  match flags.skip text with
  | '^' :: rest => if flags.unicode then some rest else none
  | rest => some rest

/-- The set from here up to its closing bracket: its depth, and what follows. At its start, dashes and a
closing bracket may stand for themselves. -/
def readSet (flags : Flags) : Nat → Bool → Filling → List Char → Option (Nat × List Char)
  | 0, _, _, _ => none
  | steps + 1, atStart, filling, text =>
    match flags.skip text with
    | [] => none
    | ']' :: rest =>
      if atStart && filling.parts.isEmpty then
        if (Atom.literal ']' false).isMember flags then readSet flags steps false (filling.add 0) rest else none
      else some (filling.depth, rest)
    | '[' :: rest =>
      match readClass rest with
      | some (isNegated, rest) =>
        if isClassSupported flags isNegated then readSet flags steps false (filling.add 0) rest else none
      | none => do
        let (depth, rest) ← readSet flags steps true {} (← openBrackets flags rest)
        readSet flags steps false (filling.add (1 + depth)) rest
    | c :: rest =>
      if c = '-' ∧ atStart then
        if (Atom.literal '-' false).isMember flags then readSet flags steps true (filling.add 0) rest else none
      else if ['&', '-', '~'].contains c && rest.head? == some c then
        readSet flags steps false filling.operand rest.tail
      else do
        let rest ← readRange flags (c :: rest)
        readSet flags steps false (filling.add 0) rest

/-- The depth of the brackets that a text begins behind the first one of, and what follows them. -/
def readBrackets (flags : Flags) (text : List Char) : Option (Nat × List Char) := do
  let (depth, rest) ← readSet flags (text.length + 1) true {} (← openBrackets flags text)
  some (1 + depth, rest)

end DecoderHost.Regex

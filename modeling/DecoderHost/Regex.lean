import DecoderHost.Regex.Brackets
import DecoderHost.Text.Alphanumeric

/-!
Regular expressions: which texts are one that can be matched. Items stand side by side in a branch, branches
have `|` between them, and a group has its branches in parentheses. A group may have a name or change the
flags inside; flags in parentheses of their own change those of the group around from there on.

There are no counted repetitions and no references back. Groups, repetitions, branches, sequences and sets may
lie in each other to a limited depth. The ends of words can be looked for only where characters are those of
ASCII, and an expression that looks for them elsewhere is refused with a reason of its own.
-/

namespace DecoderHost.Regex

/-- Why a text cannot be matched. -/
inductive Fault where
  | malformed | wordBoundary
  deriving DecidableEq, Repr

/-- The wording of a fault. -/
def Fault.message : Fault → String
  | malformed => "error building NFA"
  | wordBoundary => "unsupported regex feature for DFAs: cannot build DFAs for regexes with Unicode " ++
      "word boundaries; switch to ASCII word boundaries, or heuristically enable Unicode word boundaries " ++
      "or use a different regex engine"

/-- The greatest depth. -/
def depthLimit : Nat := 250

/-! ## Groups -/

/-- May the character stand in the name of a group, other than at its start? -/
def isNamePart (c : Char) : Bool := ['_', '.', '[', ']'].contains c || Text.isAlphanumeric c

/-- The name of a group up to the closing angle, and what follows. -/
def readName (text : List Char) : Option (String × List Char) :=
  match text.takeWhile (· ≠ '>'), text.dropWhile (· ≠ '>') with
  | first :: others, _ :: rest =>
    if (first = '_' ∨ Text.isAlphabetic first) ∧ others.all isNamePart then
      some (String.ofList (first :: others), rest)
    else none
  | _, _ => none

/-- What a parenthesis opens: a group, or a change of flags. -/
inductive Opening where
  | group (name : Option String) (inside : Flags)
  | change (flags : Flags)
  deriving DecidableEq, Repr

/-- What the parenthesis in front of a text opens, and what follows. -/
def readOpening (flags : Flags) (text : List Char) : Option (Opening × List Char) :=
  match flags.skip text with
  | '?' :: 'P' :: '<' :: rest | '?' :: '<' :: rest =>
    (readName rest).map fun (name, rest) => (.group (some name) flags, rest)
  | '?' :: ')' :: _ => none
  | '?' :: rest =>
    match flags.readChange [] rest with
    | some (inside, ':' :: rest) => some (.group none inside, rest)
    | some (changed, _ :: rest) => some (.change changed, rest)
    | _ => none
  | rest => some (.group none flags, rest)

/-! ## Branches -/

/-- An item of a branch: a part of some depth, or a change of flags, which cannot be repeated. -/
inductive Item where
  | part (depth : Nat)
  | change
  deriving DecidableEq, Repr

/-- The depth of an item. -/
def Item.depth : Item → Nat
  | part depth => depth
  | change => 0

/-- A group so far: the depths of its finished branches, and the items of the last one, in reverse. -/
structure Branches where
  finished : List Nat := []
  items : List Item := []

namespace Branches

/-- The group with a further item. -/
def add (branches : Branches) (item : Item) : Branches := { branches with items := item :: branches.items }

/-- The group with its last item repeated. -/
def repeatLast? (branches : Branches) : Option Branches :=
  match branches.items with
  | .part depth :: items => some { branches with items := .part (1 + depth) :: items }
  | _ => none

/-- The depth of the last branch. -/
def lastDepth (branches : Branches) : Nat := besideDepth (branches.items.map Item.depth)

/-- The group with a new branch. -/
def next (branches : Branches) : Branches := { finished := branches.lastDepth :: branches.finished }

/-- The depth of the branches together. -/
def depth (branches : Branches) : Nat := besideDepth (branches.lastDepth :: branches.finished)

end Branches

/-- What is known where a reader stands: the flags in force, the names that groups have, and whether the end of
a word is looked for beyond ASCII. -/
structure Standing where
  flags : Flags := {}
  names : List String := []
  hasBoundary : Bool := false

namespace Standing

/-- Enter a group; no two groups share a name. -/
def enter? (standing : Standing) (name : Option String) (inside : Flags) : Option Standing :=
  match name with
  | none => some { standing with flags := inside }
  | some name =>
    if standing.names.contains name then none
    else some { standing with flags := inside, names := name :: standing.names }

/-- Pass an atom, if it is supported. -/
def pass? (standing : Standing) (atom : Atom) : Option Standing :=
  if atom = .wordBoundary ∧ standing.flags.unicode then some { standing with hasBoundary := true }
  else if atom.isSupported standing.flags then some standing
  else none

end Standing

/-- The branches of a group, of which some are read, up to a closing parenthesis or the end: their depth, where
the reader then stands, and what follows. -/
def readBranches : Nat → Standing → Branches → List Char → Option (Nat × Standing × List Char)
  | 0, _, _, _ => none
  | steps + 1, standing, branches, text =>
    let flags := standing.flags
    match flags.skip text with
    | [] => some (branches.depth, standing, [])
    | ')' :: rest => some (branches.depth, standing, ')' :: rest)
    | '|' :: rest => readBranches steps standing branches.next rest
    | '(' :: rest => do
      match ← readOpening flags rest with
      | (.change changed, rest) =>
        readBranches steps { standing with flags := changed } (branches.add .change) rest
      | (.group name inside, rest) =>
        match ← readBranches steps (← standing.enter? name inside) {} rest with
        | (depth, left, ')' :: rest) =>
          readBranches steps { left with flags := flags } (branches.add (.part (1 + depth))) rest
        | _ => none
    | '[' :: rest => do
      let (depth, rest) ← readBrackets flags rest
      readBranches steps standing (branches.add (.part depth)) rest
    | c :: rest =>
      if c = '*' ∨ c = '+' ∨ c = '?' then do
        let rest := if rest.head? = some '?' then rest.tail else rest
        readBranches steps standing (← branches.repeatLast?) rest
      else if c = '\x7b' then none
      else do
        let (atom, rest) ← readAtom flags (c :: rest)
        readBranches steps (← standing.pass? atom) (branches.add (.part 0)) rest

/-- Why a text cannot be matched, if it cannot. -/
def fault? (text : List Char) : Option Fault :=
  match readBranches (text.length + 1) {} {} text with
  | some (depth, standing, []) =>
    if depthLimit < depth then some .malformed
    else if standing.hasBoundary then some .wordBoundary
    else none
  | _ => some .malformed

end DecoderHost.Regex

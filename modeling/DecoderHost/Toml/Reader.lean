import DecoderHost.Toml.Number

/-!
TOML values, keys and lines.

A reader takes a text and gives what it read and what is left, or nothing if the text does not start that
way. Readers of nested values carry a bound on the number of steps, which the length of the text always
meets, and the depth of nesting, which is limited.
-/

namespace DecoderHost.Toml

/-- The depth from which nested values, and the length from which dotted keys, are refused. -/
def depthLimit : Nat := 80

/-! ## Blanks, comments and line ends -/

/-- The text without blanks at its start. -/
def skipSpace (text : List Char) : List Char := text.dropWhile isSpace

/-- The text without a comment at its start. -/
def skipComment : List Char → List Char
  | '#' :: rest => rest.dropWhile isPlain
  | rest => rest

/-- What follows the end of a line, which may be the end of the text. -/
def lineEnd? : List Char → Option (List Char)
  | [] => some []
  | '\n' :: rest => some rest
  | '\r' :: '\n' :: rest => some rest
  | _ => none

/-- What follows a line whose remainder holds at most a comment. -/
def endOfLine? (text : List Char) : Option (List Char) :=
  lineEnd? (skipComment (skipSpace text))

/-- The text without blanks, line breaks and comments at its start. Inside a comment only the end of the
line counts; a comment must end with one. -/
def skipFiller (inComment : Bool) : List Char → Option (List Char)
  | '\n' :: rest => skipFiller false rest
  | '\r' :: '\n' :: rest => skipFiller false rest
  | c :: rest =>
    if inComment then if isPlain c then skipFiller true rest else none
    else if isSpace c then skipFiller false rest
    else if c = '#' then skipFiller true rest
    else some (c :: rest)
  | [] => if inComment then none else some []

/-! ## Keys -/

/-- Characters of bare keys. -/
def isBare (c : Char) : Bool :=
  ('a' ≤ c && c ≤ 'z') || ('A' ≤ c && c ≤ 'Z') || isDigit c || c = '-' || c = '_'

/-- One part of a key. -/
def readKeyPart : List Char → Option (String × List Char)
  | '"' :: rest => (readBasic rest).map fun (text, rest) => (String.ofList text, rest)
  | '\'' :: rest => (readLiteral rest).map fun (text, rest) => (String.ofList text, rest)
  | text =>
    let bare := text.takeWhile isBare
    if bare.isEmpty then none else some (String.ofList bare, text.dropWhile isBare)

/-- The parts of a dotted key, with blanks around each. -/
def readKeyParts : Nat → List Char → Option (List String × List Char)
  | 0, _ => none
  | steps + 1, text => do
    let (part, rest) ← readKeyPart (skipSpace text)
    match skipSpace rest with
    | '.' :: rest => do
      let (parts, rest) ← readKeyParts steps rest
      some (part :: parts, rest)
    | rest => some ([part], rest)

/-- A dotted key. -/
def readKey (text : List Char) : Option (List String × List Char) :=
  readKeyParts (depthLimit - 1) text

/-! ## Tables under construction

A table that only a longer name has called into being is implicit; one that a dotted key has called into
being is dotted, too. Dotted keys extend only such tables, and a header may still define an implicit table
that is not dotted. -/

/-- A node of a document under construction. -/
inductive Node where
  | value (v : Value)
  | table (isImplicit isDotted : Bool) (entries : List (String × Node))
  | tables (items : List Node)

/-- The entries of a table. -/
abbrev Entries := List (String × Node)

namespace Entries

/-- Replace the entry under a key in its place. -/
def replace (entries : Entries) (key : String) (node : Node) : Entries :=
  entries.map fun (k, n) => if k == key then (k, node) else (k, n)

/-- Remove the entry under a key. -/
def without (entries : Entries) (key : String) : Entries :=
  entries.filter fun (k, _) => k != key

/-- Change the table at a path below these entries; missing tables on the way are created. The change
learns whether the table is dotted. -/
def update (throughDotted : Bool) :
    List String → (Bool → Entries → Option Entries) → Bool → Entries → Option Entries
  | [], change, isDotted, entries => change isDotted entries
  | key :: path, change, _, entries =>
    match entries.lookup key with
    | none => do
      let inner ← update throughDotted path change throughDotted []
      some (entries ++ [(key, .table true throughDotted inner)])
    | some (.value _) => none
    | some (.table isImplicit isDotted inner) =>
      if throughDotted && !isImplicit then none
      else do
        let inner ← update throughDotted path change isDotted inner
        some (replace entries key (.table isImplicit isDotted inner))
    | some (.tables items) =>
      match items.getLast? with
      | some (.table isImplicit isDotted inner) => do
        let inner ← update throughDotted path change isDotted inner
        some (replace entries key
          (.tables (items.dropLast ++ [.table isImplicit isDotted inner])))
      | _ => none

/-- Define a dotted key. -/
def define (entries : Entries) (path : List String) (key : String) (node : Node) :
    Option Entries :=
  update true path (fun isDotted inner =>
    if isDotted == path.isEmpty || (inner.lookup key).isSome then none
    else some (inner ++ [(key, node)])) false entries

end Entries

mutual

/-- The value that a node stands for. -/
def Node.toValue : Node → Value
  | .value v => v
  | .table _ _ entries => .table (Node.entryValues entries)
  | .tables items => .tables (Node.itemValues items)

/-- The values of entries. -/
def Node.entryValues : List (String × Node) → List (String × Value)
  | [] => []
  | (key, node) :: rest => (key, node.toValue) :: Node.entryValues rest

/-- The values of items. -/
def Node.itemValues : List Node → List Value
  | [] => []
  | node :: rest => node.toValue :: Node.itemValues rest

end

/-! ## Values -/

/-- Cut a key into the path of its table and its last part. -/
def splitLast : List String → Option (List String × String)
  | [] => none
  | [last] => some ([], last)
  | first :: rest => (splitLast rest).map fun (path, last) => (first :: path, last)

mutual

/-- A value at some depth of nesting. -/
def readValue : Nat → Nat → List Char → Option (Value × List Char)
  | 0, _, _ => none
  | steps + 1, depth, text =>
    match text with
    | '[' :: rest =>
      if depth + 1 < depthLimit then do
        let (items, rest) ← readItems steps (depth + 1) rest
        some (.array items, rest)
      else none
    | '\x7b' :: rest =>
      if depth + 1 < depthLimit then
        match skipSpace rest with
        | '\x7d' :: rest => some (.table [], rest)
        | rest => do
          let (entries, rest) ← readPairs steps (depth + 1) [] rest
          some (.table (Node.entryValues entries), rest)
      else none
    | 't' :: 'r' :: 'u' :: 'e' :: rest => some (.boolean true, rest)
    | 'f' :: 'a' :: 'l' :: 's' :: 'e' :: rest => some (.boolean false, rest)
    | '"' :: _ => (readString text).map fun (t, rest) => (.string (String.ofList t), rest)
    | '\'' :: _ => (readString text).map fun (t, rest) => (.string (String.ofList t), rest)
    | 'i' :: _ => readFloating text
    | 'n' :: _ => readFloating text
    | c :: _ => if isDigit c || c = '+' || c = '-' then readNumeric text else none
    | [] => none

/-- The items of an array up to its closing bracket; a comma may follow the last. -/
def readItems : Nat → Nat → List Char → Option (List Value × List Char)
  | 0, _, _ => none
  | steps + 1, depth, text => do
    match ← skipFiller false text with
    | ']' :: rest => some ([], rest)
    | text => do
      let (item, rest) ← readValue steps depth text
      match ← skipFiller false rest with
      | ']' :: rest => some ([item], rest)
      | ',' :: rest => do
        let (items, rest) ← readItems steps depth rest
        some (item :: items, rest)
      | _ => none

/-- The pairs of an inline table up to its closing brace; at least one. -/
def readPairs : Nat → Nat → Entries → List Char → Option (Entries × List Char)
  | 0, _, _, _ => none
  | steps + 1, depth, entries, text => do
    let (name, rest) ← readKey text
    match rest with
    | '=' :: rest => do
      let (value, rest) ← readValue steps depth (skipSpace rest)
      let (path, key) ← splitLast name
      let entries ← entries.define path key (.value value)
      match skipSpace rest with
      | '\x7d' :: rest => some (entries, rest)
      | ',' :: rest => readPairs steps depth entries rest
      | _ => none
    | _ => none

end

end DecoderHost.Toml

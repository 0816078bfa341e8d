import DecoderHost.Toml.Reader

/-!
TOML documents: lines of `key = value`, headers of tables and headers of arrays of tables.

The lines under a header are collected and put into the document when the next header or the end of the
text comes. A header that names an implicit table takes it over, and the table moves behind the entries
that came up before.
-/

namespace DecoderHost.Toml

/-- A document being read: what is settled, and the table that the current header opened. -/
structure Draft where
  root : Entries := []
  path : List String := []
  isArrayItem : Bool := false
  current : Entries := []

namespace Draft

/-- Put the current table into the document. -/
def settle (draft : Draft) : Option Entries :=
  match splitLast draft.path with
  | none => some draft.current
  | some (path, key) =>
    let item : Node := .table false false draft.current
    Entries.update false path (fun _ entries =>
      match entries.lookup key with
      | none => some (entries ++ [(key, if draft.isArrayItem then .tables [item] else item)])
      | some (.tables items) =>
        if draft.isArrayItem then some (entries.replace key (.tables (items ++ [item]))) else none
      | some (.table true _ _) =>
        if draft.isArrayItem then none else some (entries.replace key item)
      | some _ => none) false draft.root

/-- The entries of the table at a path, if there is one; of an array of tables the last counts. -/
def find? : List String → Entries → Option Entries
  | [], entries => some entries
  | key :: path, entries =>
    match entries.lookup key with
    | some (.table _ _ inner) => find? path inner
    | some (.tables items) =>
      match items.getLast? with
      | some (.table _ _ inner) => find? path inner
      | _ => none
    | _ => none

/-- Open the table that a header names. -/
def openTable (draft : Draft) (name : List String) : Option Draft := do
  let root ← draft.settle
  let (path, key) ← splitLast name
  match (find? path root).bind fun entries => entries.lookup key with
  | none => do
    let root ← Entries.update false path (fun _ entries => some entries) false root
    some { root, path := name, isArrayItem := false, current := [] }
  | some (.table true false inner) => do
    let root ← Entries.update false path (fun _ entries => some (entries.without key)) false root
    some { root, path := name, isArrayItem := false, current := inner }
  | some _ => none

/-- Open a further item of the array of tables that a header names. -/
def openItem (draft : Draft) (name : List String) : Option Draft := do
  let root ← draft.settle
  let (path, key) ← splitLast name
  let root ← Entries.update false path (fun _ entries =>
    match entries.lookup key with
    | none => some (entries ++ [(key, .tables [])])
    | some (.tables _) => some entries
    | some _ => none) false root
  some { root, path := name, isArrayItem := true, current := [] }

/-- Define a key in the current table. -/
def define (draft : Draft) (name : List String) (value : Value) : Option Draft := do
  let (path, key) ← splitLast name
  let current ← draft.current.define path key (.value value)
  some { draft with current }

end Draft

/-- One line of a document, without blanks at its start: the draft with it, and what follows. -/
def readLine (steps : Nat) (draft : Draft) (text : List Char) : Option (Draft × List Char) :=
  match text with
  | '[' :: '[' :: rest => do
    let (name, rest) ← readKey rest
    match rest with
    | ']' :: ']' :: rest => do
      let rest ← endOfLine? rest
      some (← draft.openItem name, rest)
    | _ => none
  | '[' :: rest => do
    let (name, rest) ← readKey rest
    match rest with
    | ']' :: rest => do
      let rest ← endOfLine? rest
      some (← draft.openTable name, rest)
    | _ => none
  | '#' :: _ => (lineEnd? (skipComment text)).map fun rest => (draft, rest)
  | '\n' :: rest => some (draft, rest)
  | '\r' :: '\n' :: rest => some (draft, rest)
  | _ => do
    let (name, rest) ← readKey text
    match rest with
    | '=' :: rest => do
      let (value, rest) ← readValue steps 0 (skipSpace rest)
      let rest ← endOfLine? rest
      some (← draft.define name value, rest)
    | _ => none

/-- All lines of a document. -/
def readLines (steps : Nat) : Nat → Draft → List Char → Option Draft
  | 0, _, _ => none
  | lines + 1, draft, text =>
    match skipSpace text with
    | [] => some draft
    | text => do
      let (draft, rest) ← readLine steps draft text
      readLines steps lines draft rest

/-- The entries of a document, if the text is one. A byte-order mark may stand in front. -/
def parse (text : String) : Option (List (String × Value)) := do
  let chars := match text.toList with
    | '\uFEFF' :: rest => rest
    | rest => rest
  let draft ← readLines (chars.length + 1) (chars.length + 1) {} chars
  let entries ← draft.settle
  some (Node.entryValues entries)

end DecoderHost.Toml

import DecoderHost.Text.Quoted
import DecoderHost.Toml.Value

/-!
Reading typed settings out of document values.

A record is a list of settings, each with a key and a reader. A table gives settings by key, in the order
of its entries, and unknown keys are passed over. An array gives them by position, and what it leaves out
keeps its default. The first value of the wrong shape decides the error.
-/

namespace DecoderHost

/-- What was found where something else was expected. -/
inductive Found where
  | integer (number : Int)
  | floating (number : Toml.Floating)
  | boolean (truth : Bool)
  | string (text : String)
  | sequence
  | map
  deriving DecidableEq, Repr

namespace Found

/-- What kind of thing a value is. Dates and times pass for maps. -/
def ofValue : Toml.Value → Found
  | .string text => string text
  | .integer number => integer number
  | .floating number => floating number
  | .boolean truth => boolean truth
  | .array _ | .tables _ => sequence
  | .moment | .table _ => map

/-- The wording of what was found. -/
def text : Found → String
  | integer number => s!"integer `{number}`"
  | floating number => s!"floating point `{number.text}`"
  | boolean truth => s!"boolean `{truth}`"
  | string text => "string " ++ Text.quoted text
  | sequence => "sequence"
  | map => "map"

end Found

/-- Why a document does not have the shape of a configuration. -/
inductive ShapeError where
  | invalidType (found : Found) (expected : String)
  | invalidNumber (number : Int)
  | unknownVariant (name : String) (known : List String)
  | notStringOrTable
  | notOneElement (isEmpty : Bool)
  | expectedEmptyTable
  | expectedEmptyArray
  | expectedTable (kind : String)
  deriving DecidableEq, Repr

namespace ShapeError

/-- The wording of an error. -/
def message : ShapeError → String
  | invalidType found expected => s!"invalid type: {found.text}, expected {expected}"
  | invalidNumber number => s!"invalid value: integer `{number}`, expected u32"
  | unknownVariant name known =>
    s!"unknown variant `{name}`, expected " ++
      " or ".intercalate (known.map fun variant => s!"`{variant}`")
  | notStringOrTable => "wanted string or table"
  | notOneElement true => "wanted exactly 1 element, found 0 elements"
  | notOneElement false => "wanted exactly 1 element, more than 1 element"
  | expectedEmptyTable => "expected empty table"
  | expectedEmptyArray => "expected empty array"
  | expectedTable kind => s!"expected table, found {kind}"

/-- The last line of the wording. -/
def lastLine (e : ShapeError) : String :=
  String.ofList (e.message.toList.reverse.takeWhile (· ≠ '\n')).reverse

end ShapeError

namespace Shape

variable {α : Type}

/-! ## Scalars -/

/-- Read a truth value. -/
def readBoolean : Toml.Value → Except ShapeError Bool
  | .boolean truth => .ok truth
  | other => .error (.invalidType (Found.ofValue other) "a boolean")

/-- Read a number of 32 bits. -/
def readWord : Toml.Value → Except ShapeError UInt32
  | .integer number =>
    if 0 ≤ number ∧ number < 4294967296 then .ok (UInt32.ofNat number.toNat)
    else .error (.invalidNumber number)
  | other => .error (.invalidType (Found.ofValue other) "u32")

/-- Read a text. -/
def readText : Toml.Value → Except ShapeError String
  | .string text => .ok text
  | other => .error (.invalidType (Found.ofValue other) "a string")

/-- Read a path. -/
def readPath : Toml.Value → Except ShapeError String
  | .string text => .ok text
  | other => .error (.invalidType (Found.ofValue other) "path string")

/-! ## Choices -/

/-- The kind of a value, as the document format calls it. -/
def kindName : Toml.Value → String
  | .string _ => "string"
  | .integer _ => "integer"
  | .floating _ => "float"
  | .boolean _ => "boolean"
  | .moment => "datetime"
  | .array _ => "array"
  | .tables _ => "array of tables"
  | .table _ => "table"

/-- Nothing may come with the name of a choice. -/
def readNothing : Toml.Value → Except ShapeError Unit
  | .table [] | .array [] | .tables [] => .ok ()
  | .table _ | .array _ => .error .expectedEmptyTable
  | .tables _ => .error .expectedEmptyArray
  | other => .error (.expectedTable (kindName other))

/-- The choice with a name. -/
def chosen (choices : List (String × α)) (name : String) : Except ShapeError α :=
  match choices.lookup name with
  | some choice => .ok choice
  | none => .error (.unknownVariant name (choices.map Prod.fst))

/-- Read a choice: its name, or a table whose only key is its name. -/
def readChoice (choices : List (String × α)) : Toml.Value → Except ShapeError α
  | .string name => chosen choices name
  | .table [(name, value)] => do
    let choice ← chosen choices name
    readNothing value
    pure choice
  | .table entries => .error (.notOneElement entries.isEmpty)
  | _ => .error .notStringOrTable

/-! ## Records -/

/-- A setting of a record: its key, and what a value for it makes of the record. -/
structure Setting (α : Type) where
  key : String
  read : Toml.Value → α → Except ShapeError α

/-- The setting whose value is read by `parse` and put into the record by `put`. -/
def Setting.of {β : Type} (key : String) (parse : Toml.Value → Except ShapeError β)
    (put : β → α → α) : Setting α where
  key := key
  read value record := (parse value).map fun b => put b record

/-- Take settings by key. -/
def readEntries (settings : List (Setting α)) :
    List (String × Toml.Value) → α → Except ShapeError α
  | [], record => .ok record
  | (key, value) :: rest, record =>
    match settings.find? fun setting => setting.key == key with
    | none => readEntries settings rest record
    | some setting =>
      match setting.read value record with
      | .ok record => readEntries settings rest record
      | .error e => .error e

/-- Take settings by position. -/
def readItems : List (Setting α) → List Toml.Value → α → Except ShapeError α
  | setting :: settings, value :: values, record =>
    match setting.read value record with
    | .ok record => readItems settings values record
    | .error e => .error e
  | _, _, record => .ok record

/-- Read a record; settings that are not given keep their defaults. -/
def readRecord (name : String) (settings : List (Setting α)) (defaults : α) :
    Toml.Value → Except ShapeError α
  | .table entries => readEntries settings entries defaults
  | .array items | .tables items => readItems settings items defaults
  | .moment => .ok defaults
  | other => .error (.invalidType (Found.ofValue other) ("struct " ++ name))

end Shape

end DecoderHost

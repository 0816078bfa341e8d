import DecoderHost.Config.Basic
import DecoderHost.Log.Severity

/-!
Log records and the line that each is written as: words with the fields behind the message, or one JSON
object with sorted keys.
-/

namespace DecoderHost

/-- The value of a field. -/
inductive LogValue where
  | text (value : String)
  | number (value : Nat)
  deriving DecidableEq, Repr

/-- A log record: how severe it is, where it comes from, what it says, and its fields. -/
structure LogRecord where
  severity : Severity
  target : String
  message : String
  fields : List (String × LogValue)
  deriving DecidableEq, Repr

namespace LogRecord

/-- One character inside a JSON string. -/
def jsonChar (c : Char) : List Char :=
  if c = '"' then ['\\', '"']
  else if c = '\\' then ['\\', '\\']
  else if c = '\n' then ['\\', 'n']
  else if c = '\r' then ['\\', 'r']
  else if c = '\t' then ['\\', 't']
  else if c = '\x08' then ['\\', 'b']
  else if c = '\x0c' then ['\\', 'f']
  else if c.toNat < 0x20 then
    ['\\', 'u', '0', '0', Nat.digitChar (c.toNat / 16), Nat.digitChar (c.toNat % 16)]
  else [c]

/-- A text as a JSON string. -/
def jsonString (text : String) : String :=
  String.ofList ('"' :: text.toList.flatMap jsonChar ++ ['"'])

/-- A value in JSON. -/
def jsonValue : LogValue → String
  | .text value => jsonString value
  | .number value => toString value

/-- A value as it stands in a line of words. -/
def plainValue : LogValue → String
  | .text value => value
  | .number value => toString value

/-- Entries of a JSON object. -/
def jsonObject (entries : List (String × String)) : String :=
  "\x7b" ++ ",".intercalate (entries.map fun (key, value) => jsonString key ++ ":" ++ value) ++ "\x7d"

/-- The record as a line of words. -/
def textLine (record : LogRecord) : String :=
  s!"{record.severity.name} {record.target}: {record.message}" ++
    String.join (record.fields.map fun (key, value) => s!" {key}={plainValue value}")

/-- The record as a JSON object. -/
def jsonLine (record : LogRecord) : String :=
  let fields := ("message", LogValue.text record.message) :: record.fields
  let sorted := fields.mergeSort fun a b => a.1 ≤ b.1
  jsonObject [("fields", jsonObject (sorted.map fun (key, value) => (key, jsonValue value))),
    ("level", jsonString record.severity.name), ("target", jsonString record.target)]

/-- The record as a line in a format. -/
def line (record : LogRecord) : LogFormat → String
  | .text => record.textLine
  | .json => record.jsonLine

end LogRecord

end DecoderHost

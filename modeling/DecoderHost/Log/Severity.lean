/-!
How severe a log record is, and how severe a record must be to be shown.
-/

namespace DecoderHost

/-- How severe a log record is. -/
inductive Severity where
  | error | warn | info | debug | trace
  deriving DecidableEq, Repr

namespace Severity

/-- The rank of a severity: the more severe, the lower. -/
def rank : Severity → Nat
  | error => 1
  | warn => 2
  | info => 3
  | debug => 4
  | trace => 5

/-- The name of a severity. -/
def name : Severity → String
  | error => "ERROR"
  | warn => "WARN"
  | info => "INFO"
  | debug => "DEBUG"
  | trace => "TRACE"

/-- The highest rank there is. -/
def lowest : Nat := 5

/-- The bounds on the rank by name. -/
def bounds : List (String × Nat) :=
  [("off", 0), ("error", 1), ("warn", 2), ("info", 3), ("debug", 4), ("trace", 5)]

/-- The number that decimal digits spell, perhaps behind a plus sign. -/
def number? (text : List Char) : Option Nat :=
  let digits := if text.head? = some '+' then text.tail else text
  if !digits.isEmpty && digits.all Char.isDigit then
    some (digits.foldl (fun n c => 10 * n + (c.toNat - '0'.toNat)) 0)
  else none

/-- The bound that a text spells: the name of a level in any case, or its number. -/
def bound? (text : String) : Option Nat :=
  match number? text.toList with
  | some n => if n ≤ lowest then some n else none
  | none => bounds.lookup text.toLower

end Severity

end DecoderHost

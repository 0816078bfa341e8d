import DecoderHost.Toml.Text
import DecoderHost.Toml.Value

/-!
TOML numbers, dates and times. Underscores may stand between digits. An integer fits 64 bits with sign; a
floating-point number above the greatest double is refused, one below the least becomes infinite. Dates
and times are checked for their ranges.
-/

namespace DecoderHost.Toml

/-- Is the character a decimal digit? -/
def isDigit (c : Char) : Bool := '0' ≤ c && c ≤ '9'

/-- Digits with single underscores between them, as far as they go: the digits, and what follows. -/
def readDigits (isDigit : Char → Bool) : List Char → List Char × List Char
  | '_' :: c :: rest =>
    if isDigit c then
      let (digits, left) := readDigits isDigit rest
      (c :: digits, left)
    else ([], '_' :: c :: rest)
  | c :: rest =>
    if isDigit c then
      let (digits, left) := readDigits isDigit rest
      (c :: digits, left)
    else ([], c :: rest)
  | [] => ([], [])

/-- At least one digit, the first without an underscore. -/
def readSomeDigits (isDigit : Char → Bool) : List Char → Option (List Char × List Char)
  | c :: rest =>
    if isDigit c then
      let (digits, left) := readDigits isDigit rest
      some (c :: digits, left)
    else none
  | [] => none

/-- The number that digits spell in a base. -/
def digitsValue (base : Nat) (digits : List Char) : Nat :=
  digits.foldl (fun n c => n * base + (Text.hexValue? c).getD 0) 0

/-- An optional sign: true for minus. -/
def readSign : List Char → Bool × List Char
  | '+' :: rest => (false, rest)
  | '-' :: rest => (true, rest)
  | rest => (false, rest)

/-- Decimal digits of a whole number: a zero stands alone. -/
def readWhole : List Char → Option (List Char × List Char)
  | '0' :: rest => some (['0'], rest)
  | rest => readSomeDigits isDigit rest

/-- An integer, if it fits. -/
def checkedInteger (number : Int) : Option Value :=
  if -9223372036854775808 ≤ number ∧ number ≤ 9223372036854775807 then some (.integer number)
  else none

/-- An integer with a base mark. -/
def readBased (base : Nat) (isDigit : Char → Bool) (text : List Char) :
    Option (Value × List Char) := do
  let (digits, rest) ← readSomeDigits isDigit text
  let value ← checkedInteger (digitsValue base digits)
  some (value, rest)

/-- An integer. -/
def readInteger : List Char → Option (Value × List Char)
  | '0' :: 'x' :: rest => readBased 16 (fun c => (Text.hexValue? c).isSome) rest
  | '0' :: 'o' :: rest => readBased 8 (fun c => '0' ≤ c && c ≤ '7') rest
  | '0' :: 'b' :: rest => readBased 2 (fun c => c = '0' || c = '1') rest
  | text => do
    let (isNegative, unsigned) := readSign text
    let (digits, rest) ← readWhole unsigned
    let magnitude : Int := digitsValue 10 digits
    let value ← checkedInteger (if isNegative then -magnitude else magnitude)
    some (value, rest)

/-- An exponent: its value and what follows. -/
def readExponent : List Char → Option (Int × List Char)
  | c :: text =>
    if c = 'e' ∨ c = 'E' then do
      let (isNegative, unsigned) := readSign text
      let (digits, rest) ← readSomeDigits isDigit unsigned
      let magnitude : Int := digitsValue 10 digits
      some (if isNegative then -magnitude else magnitude, rest)
    else none
  | [] => none

/-- A floating-point number from its parts. -/
def floating (isNegative : Bool) (digits : List Char) (power : Int) : Option Value :=
  match Decimal.Binary64.ofDecimal (digitsValue 10 digits) power with
  | some magnitude => some (.floating (.finite isNegative magnitude))
  | none => if isNegative then some (.floating (.infinite true)) else none

/-- A floating-point number: a whole number with a fraction, an exponent or both, or one of the special
names. -/
def readFloating (text : List Char) : Option (Value × List Char) :=
  let (isNegative, unsigned) := readSign text
  match unsigned with
  | 'i' :: 'n' :: 'f' :: rest => some (.floating (.infinite isNegative), rest)
  | 'n' :: 'a' :: 'n' :: rest => some (.floating .notANumber, rest)
  | _ => do
    let (whole, rest) ← readWhole unsigned
    match rest with
    | '.' :: fractionText => do
      let (fraction, rest) ← readSomeDigits isDigit fractionText
      let (exponent, rest) := (readExponent rest).getD (0, rest)
      let value ← floating isNegative (whole ++ fraction) (exponent - fraction.length)
      some (value, rest)
    | _ => do
      let (exponent, rest) ← readExponent rest
      let value ← floating isNegative whole exponent
      some (value, rest)

/-! ## Dates and times -/

/-- Exactly `count` decimal digits as a number. -/
def readFixed (count : Nat) (text : List Char) : Option (Nat × List Char) :=
  let digits := text.take count
  if digits.length = count ∧ digits.all isDigit then
    some (digitsValue 10 digits, text.drop count)
  else none

/-- The next character, if it is the one expected. -/
def expect (c : Char) : List Char → Option (List Char)
  | d :: rest => if c = d then some rest else none
  | [] => none

/-- The days of a month. -/
def daysInMonth (year month : Nat) : Nat :=
  if month = 2 then
    if (year % 4 = 0 ∧ year % 100 ≠ 0) ∨ year % 400 = 0 then 29 else 28
  else if month = 4 ∨ month = 6 ∨ month = 9 ∨ month = 11 then 30
  else 31

/-- A date. -/
def readDate (text : List Char) : Option (List Char) := do
  let (year, rest) ← readFixed 4 text
  let (month, rest) ← readFixed 2 (← expect '-' rest)
  let (day, rest) ← readFixed 2 (← expect '-' rest)
  if 1 ≤ month ∧ month ≤ 12 ∧ 1 ≤ day ∧ day ≤ daysInMonth year month then some rest else none

/-- An hour and a minute. -/
def readHourMinute (text : List Char) : Option (List Char) := do
  let (hour, rest) ← readFixed 2 text
  let (minute, rest) ← readFixed 2 (← expect ':' rest)
  if hour ≤ 23 ∧ minute ≤ 59 then some rest else none

/-- The fraction of a second, if there is one. -/
def skipFraction : List Char → List Char
  | '.' :: rest => if (rest.takeWhile isDigit).isEmpty then '.' :: rest else rest.dropWhile isDigit
  | rest => rest

/-- A time of day; a leap second is allowed. -/
def readTime (text : List Char) : Option (List Char) := do
  let rest ← readHourMinute text
  let (second, rest) ← readFixed 2 (← expect ':' rest)
  if second ≤ 60 then some (skipFraction rest) else none

/-- An offset from universal time, if there is one. -/
def skipOffset (text : List Char) : Option (List Char) :=
  match text with
  | c :: rest =>
    if c = 'Z' ∨ c = 'z' then some rest
    else if c = '+' ∨ c = '-' then readHourMinute rest
    else some text
  | [] => some []

/-- A date, a time, or both. -/
def readMoment (text : List Char) : Option (Value × List Char) :=
  match readDate text with
  | none => (readTime text).map fun rest => (.moment, rest)
  | some rest =>
    match rest with
    | c :: timeText =>
      if c = 'T' ∨ c = 't' ∨ c = ' ' then
        match readTime timeText with
        | some rest => (skipOffset rest).map fun rest => (.moment, rest)
        | none => some (.moment, rest)
      else some (.moment, rest)
    | [] => some (.moment, [])

/-- A number, a date or a time. -/
def readNumeric (text : List Char) : Option (Value × List Char) :=
  (readMoment text).orElse fun _ => (readFloating text).orElse fun _ => readInteger text

end DecoderHost.Toml

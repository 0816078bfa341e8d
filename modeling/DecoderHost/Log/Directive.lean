import DecoderHost.Log.Pattern
import DecoderHost.Log.Severity
import DecoderHost.Text.Alphanumeric
import DecoderHost.Text.Blank
import DecoderHost.Text.Utf8

/-!
Directives of a log filter: `level`, `target`, `target=level`, or `target[span{field=value}]=level`, in which
the target, the span, the field and the level may each be missing.

The shape is read from the directive without the white space at its ends, but its parts are cut out of the
directive as it was written, at the positions counted in the shorter text. So white space at an end belongs
to a part, and in front it shifts the parts that come later; only a directive without it says what it seems
to say.
-/

namespace DecoderHost

/-- The field that a record must have, and perhaps with which value. -/
structure FieldFilter where
  name : String
  value : Option String
  deriving DecidableEq, Repr

/-- A directive: the records that it is about, and the highest rank that it shows. -/
structure Directive where
  target : Option String := none
  span : Option String := none
  field : Option FieldFilter := none
  bound : Nat := Severity.lowest
  deriving DecidableEq, Repr

/-- Why a text is no directive. A torn one would have a part that begins or ends within a character. -/
inductive Malformed where
  | shape | level | torn
  | field (fault : Regex.Fault)
  deriving DecidableEq, Repr

/-- The wording of what is wrong with a directive. That of a torn one is left open: it is a panic, and worded by what
panics. -/
def Malformed.message : Malformed → String
  | shape => "invalid filter directive"
  | level => "error parsing level filter: expected one of \"off\", \"error\", \"warn\", \"info\", " ++
      "\"debug\", \"trace\", or a number 0-5"
  | torn => ""
  | field fault => "invalid field filter: " ++ fault.message

namespace Directive

/-- A directive as it was written, and the text from which its shape is read, both as bytes. -/
structure Source where
  written : List UInt8
  shown : List UInt8

namespace Source

/-- The part from one position up to another, as written. Of an empty part, too, the position must lie between
characters: what follows it is text. -/
def cut (source : Source) (start stop : Nat) : Except Malformed String :=
  match Text.Utf8.decode? ((source.written.drop start).take (stop - start)),
      Text.Utf8.decode? (source.written.drop stop) with
  | some part, some _ => .ok (String.ofList part)
  | _, _ => .error .torn

/-- The first of some marks from a position on, and where it stands. -/
def next? (source : Source) (marks : List Char) (start : Nat) : Option (Char × Nat) :=
  ((source.shown.drop start).zipIdx start).findSome? fun (b, i) =>
    (marks.find? fun mark => mark.toNat == b.toNat).map fun mark => (mark, i)

/-- Does this mark stand at a position? -/
def hasAt (source : Source) (position : Nat) (mark : Char) : Bool :=
  (source.shown.drop position).head?.any fun b => b.toNat == mark.toNat

/-- The bound that begins at a position; without one, everything is shown. -/
def boundFrom (source : Source) (start : Nat) : Except Malformed Nat := do
  let text ← source.cut start source.written.length
  if text.isEmpty then return Severity.lowest
  match Severity.bound? text with
  | some bound => return bound
  | none => throw .level

/-- The bound behind the brackets, which end at a position. -/
def boundAfter (source : Source) (stop : Nat) : Except Malformed Nat :=
  if source.hasAt stop '=' then source.boundFrom (stop + 1)
  else if stop = source.shown.length then .ok Severity.lowest
  else .error .shape

end Source

/-- The field that a text asks for. -/
def field? (text : String) : Except Malformed FieldFilter :=
  match text.splitOn "=" with
  | name :: value :: _ =>
    match LogPattern.fault? value with
    | none => .ok ⟨name, some value⟩
    | some fault => .error (.field fault)
  | _ => if text.isEmpty then .error .shape else .ok ⟨text, none⟩

/-- The directive for a target whose brackets begin at a position. -/
def bracketed (source : Source) (target : Option String) (start : Nat) : Except Malformed Directive := do
  match source.next? [']', '\x7b'] start with
  | none => throw .shape
  | some (']', stop) =>
    let span ← source.cut start stop
    let bound ← source.boundAfter (stop + 1)
    return { target, span, bound }
  | some (_, opening) =>
    let span ← source.cut start opening
    match source.next? ['\x7d'] (opening + 1) with
    | none => throw .shape
    | some (_, closing) =>
      let field ← field? (← source.cut (opening + 1) closing)
      if !source.hasAt (closing + 1) ']' then throw .shape
      let bound ← source.boundAfter (closing + 2)
      return { target, span := if span.isEmpty then none else some span, field, bound }

/-- May a directive begin with this character, other than with brackets? -/
def isInitial (c : Char) : Bool :=
  c == '-' || c == ':' || c == '_' || Text.isAlphanumeric c

/-- The directive that a text spells. -/
def read (text : String) : Except Malformed Directive := do
  let trimmed := Text.trim text.toList
  let source : Source := ⟨text.toUTF8.toList, (String.ofList trimmed).toUTF8.toList⟩
  match trimmed with
  | [] => throw .shape
  | '[' :: _ => bracketed source none 1
  | c :: _ =>
    if !isInitial c then throw .shape
    match source.next? ['=', '['] 0 with
    | none =>
      match Severity.bound? text with
      | some bound => return { bound }
      | none => return { target := some text }
    | some ('=', i) =>
      let target ← source.cut 0 i
      let bound ← source.boundFrom (i + 1)
      return { target := some target, bound }
    | some (_, i) => bracketed source (some (← source.cut 0 i)) (i + 1)

end Directive

end DecoderHost

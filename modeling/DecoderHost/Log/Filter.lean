import DecoderHost.Log.Directive
import DecoderHost.Log.Record

/-!
Which log records are shown. A filter is a list of directives; its text has them separated by commas. Of the
directives that are about a record the most specific counts: the one with the longest target, of these one
that asks for a field, of these the one whose field comes last by name, and of equal ones the last written. A
filter without directives shows errors.

Records are made outside of every span, so a directive that names a span or the value of a field, both of
which are looked for in spans, is about none of them.
-/

namespace DecoderHost

/-- A filter: its directives, and what is to be said about the parts of its text that are none. -/
structure LogFilter where
  directives : List Directive
  notices : List String
  deriving DecidableEq, Repr

namespace Directive

/-- Does the record have a field of this name? Its message is a field too. -/
def hasField (record : LogRecord) (name : String) : Bool :=
  name == "message" || record.fields.any fun (other, _) => other == name

/-- Is the directive about a record? -/
def isAbout (directive : Directive) (record : LogRecord) : Bool :=
  directive.target.all (fun target => record.target.startsWith target) && directive.span.isNone &&
    directive.field.all fun field => field.value.isNone && hasField record field.name

/-- How specific a directive is: the length of its target, and the field that it asks for. -/
def specificity (directive : Directive) : Nat × Option String :=
  ((directive.target.map String.utf8ByteSize).getD 0, directive.field.map FieldFilter.name)

/-- Is one directive at least as specific as another? -/
def isAsSpecificAs (directive other : Directive) : Bool :=
  let (size, field) := directive.specificity
  let (otherSize, otherField) := other.specificity
  size > otherSize || size == otherSize &&
    match field, otherField with
    | _, none => true
    | none, some _ => false
    | some name, some otherName => name ≥ otherName

/-- The more specific of two directives, or else the later one. -/
def prefer (earlier : Option Directive) (later : Directive) : Option Directive :=
  match earlier with
  | none => some later
  | some directive => if later.isAsSpecificAs directive then some later else some directive

/-- The directive in force without any other. -/
def fallback : Directive := { bound := Severity.error.rank }

end Directive

namespace LogFilter

/-- The parts of a filter text. -/
def parts (text : String) : List String :=
  (text.splitOn ",").filter fun part => !part.isEmpty

/-- The directives of a text, if all its parts are directives. -/
def strict (text : String) : Except Malformed (List Directive) := (parts text).mapM Directive.read

/-- What is said about a part that is no directive. -/
def notice (part : String) (fault : Malformed) : String := s!"ignoring `{part}`: {fault.message}"

/-- The filter of the parts that are directives. A torn part leaves no filter. -/
def lenient? (text : String) : Option LogFilter :=
  (parts text).foldr (fun part rest =>
    match Directive.read part with
    | .ok directive => rest.map fun f => { f with directives := directive :: f.directives }
    | .error .torn => none
    | .error fault => rest.map fun f => { f with notices := notice part fault :: f.notices })
    (some ⟨[], []⟩)

/-- The filter in force: that of the environment if all of it is well formed, else the configured one. -/
def inForce? (fromEnvironment : Option String) (configured : String) : Option LogFilter :=
  match fromEnvironment.map strict with
  | some (.ok directives) => some ⟨directives, []⟩
  | some (.error .torn) => none
  | _ => lenient? configured

/-- Does the filter show a record? -/
def shows (filter : LogFilter) (record : LogRecord) : Bool :=
  let directives := if filter.directives.isEmpty then [Directive.fallback] else filter.directives
  match (directives.filter fun d => d.isAbout record).foldl Directive.prefer none with
  | none => false
  | some d => record.severity.rank ≤ d.bound

end LogFilter

end DecoderHost

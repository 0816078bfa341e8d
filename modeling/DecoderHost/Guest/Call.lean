import DecoderHost.Host

/-!
Calling an exported function with integers.

Each argument is narrowed to the width of its parameter, the first result is widened again without sign,
and a function without results gives zero. A missing function, a wrong number of arguments, a parameter
that is no integer and a first result that is none are panics, in this order; a trap is an error that
carries the function's name.
-/

namespace DecoderHost.Guest

variable {σ : Type}

/-- An argument as a value of its parameter's type. -/
def lowerOne (name : String) (type : ValueType) (argument : UInt64) : Except Panic Value :=
  match type with
  | .i32 => .ok (.i32 argument.toUInt32)
  | .i64 => .ok (.i64 argument)
  | other => .error (.parameterType name other)

/-- Arguments as values of the parameters' types, from left to right. -/
def lower (name : String) : List ValueType → List UInt64 → Except Panic (List Value)
  | type :: types, argument :: arguments =>
    match lowerOne name type argument with
    | .error p => .error p
    | .ok value =>
      match lower name types arguments with
      | .error p => .error p
      | .ok values => .ok (value :: values)
  | _, _ => .ok []

/-- The argument values for a call, unless the function is missing or does not fit. -/
def prepare (g : Guest σ) (name : String) (arguments : List UInt64) : Except Panic (List Value) :=
  match g.function? name with
  | none => .error (.missingFunction name)
  | some signature =>
    if signature.parameters.length = arguments.length then
      lower name signature.parameters arguments
    else .error (.argumentCount name signature.parameters.length arguments.length)

/-- The number that the results of a call stand for. -/
def lift (name : String) : List Value → Except Panic UInt64
  | [] => .ok 0
  | .i32 bits :: _ => .ok bits.toUInt64
  | .i64 bits :: _ => .ok bits
  | other :: _ => .error (.resultType name other)

/-- The error that a trap in a function is reported as. -/
def trapError (name : String) (trap : Trap) : HostError :=
  .trap s!"`{name}` trapped: {trap.message}"

/-- Call a function; a trap is given back as an error. -/
def tryCall (g : Guest σ) (name : String) (arguments : List UInt64) :
    Host σ (Except HostError UInt64) := fun ⟨store, events⟩ =>
  match g.prepare name arguments with
  | .error p => (.error (.panic p), ⟨store, events⟩)
  | .ok values =>
    match g.invoke name values store with
    | (.error trap, store) => (.ok (.error (trapError name trap)), ⟨store, events⟩)
    | (.ok results, store) =>
      match lift name results with
      | .error p => (.error (.panic p), ⟨store, events⟩)
      | .ok number => (.ok (.ok number), ⟨store, events⟩)

/-- Call a function; a trap is a panic. -/
def call (g : Guest σ) (name : String) (arguments : List UInt64) : Host σ UInt64 := do
  match ← g.tryCall name arguments with
  | .ok number => pure number
  | .error e => Host.panic (.callFailed e)

/-- Look a function up without calling it. -/
def resolve (g : Guest σ) (name : String) : Host σ Unit :=
  if g.hasFunction name then pure () else Host.panic (.missingFunction name)

end DecoderHost.Guest

namespace DecoderHost

/-- A reference to an exported function by name, which knows whether it has been looked up. -/
structure FunctionHandle where
  name : String
  isResolved : Bool := false
  deriving DecidableEq, Repr

/-- The handle after it has been used on a guest: a successful look-up is remembered. -/
def FunctionHandle.used {σ : Type} (handle : FunctionHandle) (g : Guest σ) : FunctionHandle :=
  { handle with isResolved := handle.isResolved || g.hasFunction handle.name }

end DecoderHost

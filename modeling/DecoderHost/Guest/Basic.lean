import DecoderHost.Memory

/-!
Guests: decoder modules as the host sees them.

A guest has named exports and a behaviour. Calling one of its functions takes the argument values to
result values or to a trap, and changes the guest's store: its linear memory and whatever other state it
keeps. A trap leaves the store as it was when the trap struck.

A guest also reads and changes its surroundings, such as the standard input of the process. These are not its
own: all instances find the same ones, and an instance finds them as the last one has left them. While a guest
runs they are at hand in its store. Nothing else about a guest is known here, so that what is said of all guests
holds of every module whose calls depend on nothing but the store and the surroundings.
-/

namespace DecoderHost

/-- The types of values that cross the boundary between guest and host. Of a type of references only its name is
known. -/
inductive ValueType where
  | i32 | i64 | f32 | f64 | v128
  | reference (name : String)
  deriving DecidableEq, Repr

/-- The name of a value type. -/
def ValueType.name : ValueType → String
  | i32 => "i32"
  | i64 => "i64"
  | f32 => "f32"
  | f64 => "f64"
  | v128 => "v128"
  | reference name => name

/-- A value that crosses the boundary; floating-point numbers are given by their bits, and a reference by its
wording. -/
inductive Value where
  | i32 (bits : UInt32)
  | i64 (bits : UInt64)
  | f32 (bits : UInt32)
  | f64 (bits : UInt64)
  | v128 (bits : BitVec 128)
  | reference (wording : String)
  deriving DecidableEq, Repr

/-- A value by its type and bits; a reference is worded as a whole. -/
def Value.debug : Value → String
  | i32 bits => s!"I32({bits})"
  | i64 bits => s!"I64({bits})"
  | f32 bits => s!"F32({bits})"
  | f64 bits => s!"F64({bits})"
  | v128 bits => s!"V128({bits.toNat})"
  | reference wording => wording

/-- The types a function takes and gives. -/
structure Signature where
  parameters : List ValueType
  results : List ValueType
  deriving DecidableEq, Repr

/-- What a module offers under a name. -/
inductive Export where
  | function (signature : Signature)
  | memory
  | global
  | table
  deriving DecidableEq, Repr

/-- Why guest code stopped short of an answer. -/
inductive Trap where
  | unreachable
  | outOfBounds
  | divideByZero
  | integerOverflow
  | stackExhausted
  | exit (status : UInt32)
  | undefinedImport (name : String)
  deriving DecidableEq, Repr

/-- The wording of a trap. -/
def Trap.message : Trap → String
  | unreachable => "wasm trap: wasm `unreachable` instruction executed"
  | outOfBounds => "wasm trap: out of bounds memory access"
  | divideByZero => "wasm trap: integer divide by zero"
  | integerOverflow => "wasm trap: integer overflow"
  | stackExhausted => "wasm trap: call stack exhausted"
  | exit status => s!"Exited with i32 exit status {status}"
  | undefinedImport name => s!"unknown import: `{name}` has not been defined"

/-- What a guest shares with all others of the process: what is left of standard input, what was written to the other
two streams, the time, and the state of the source of random bytes. -/
structure Surroundings where
  input : List UInt8 := []
  output : List UInt8 := []
  errors : List UInt8 := []
  time : Nat := 0
  randomness : Nat := 0
  deriving DecidableEq, Repr

/-- The state of a live guest: its memory, the number of pages the memory may grow to, and the rest; and the
surroundings as the guest found them last. -/
structure Store (σ : Type) where
  memory : Memory
  pageLimit : Nat
  globals : σ
  surroundings : Surroundings

/-- The store of a guest that comes to other surroundings. -/
def Store.within {σ : Type} (s : Store σ) (surroundings : Surroundings) : Store σ := { s with surroundings }

/-- A store with the rest of its state seen in another way. -/
def Store.map {σ τ : Type} (view : τ → σ) (s : Store τ) : Store σ := { s with globals := view s.globals }

/-- What guest code does: it changes the store and ends with an answer or a trap. -/
abbrev GuestAction (σ α : Type) := ExceptT Trap (StateM (Store σ)) α

/-- Why a module could not be set up at all. -/
inductive StartFailure where
  | unresolvedImport (name : String)
  | trapped (trap : Trap)
  deriving DecidableEq, Repr

/-- The wording of a failed set-up. -/
def StartFailure.message : StartFailure → String
  | unresolvedImport name => s!"unknown import: `{name}` has not been defined"
  | trapped trap => trap.message

/-- A decoder module: its exports, the pages its memory starts with, how it is set up under a limit on
memory pages, which leaves its surroundings in a fresh store or beside a failure, and what each exported function
does. -/
structure Guest (σ : Type) where
  exports : List (String × Export)
  initialPages : Nat
  start : Nat → Surroundings → Except (StartFailure × Surroundings) (Store σ)
  invoke : String → List Value → GuestAction σ (List Value)

namespace Guest

variable {σ : Type}

/-- What the module offers under a name. -/
def export? (g : Guest σ) (name : String) : Option Export :=
  g.exports.lookup name

/-- The signature of the function exported under a name. -/
def function? (g : Guest σ) (name : String) : Option Signature :=
  match g.export? name with
  | some (.function signature) => some signature
  | _ => none

/-- Is a function exported under this name? -/
def hasFunction (g : Guest σ) (name : String) : Bool :=
  (g.function? name).isSome

end Guest

end DecoderHost

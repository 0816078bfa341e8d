import DecoderHost.Fleet

/-!
A bench: instances of one decoder under names, whose functions and memory are used directly. Each
instance keeps one handle for every function that was asked for.
-/

namespace DecoderHost

/-- An instance on the bench: its store and its function handles. -/
structure BenchInstance (σ : Type) where
  store : Store σ
  handles : Named FunctionHandle := []

/-- The instances of one decoder, and the pool that they live in. -/
structure Bench (σ : Type) where
  pool : Pool
  instances : Named (BenchInstance σ) := []

namespace BenchInstance

variable {σ : Type}

/-- The handle for a function. -/
def handle (i : BenchInstance σ) (name : String) : FunctionHandle :=
  (i.handles.get? name).getD { name }

/-- The instance after the handle for a function has been used. -/
def used (i : BenchInstance σ) (g : Guest σ) (name : String) : BenchInstance σ :=
  { i with handles := i.handles.put name ((i.handle name).used g) }

end BenchInstance

namespace Bench

variable {σ α : Type}

/-- A bench without instances. -/
def ofDecoder (d : Decoder σ) : Bench σ := { pool := Pool.ofConfig d.engine.config }

/-- The bench without what has a name; the instance is given up. -/
def dropped (bench : Bench σ) (name : String) : Bench σ :=
  match bench.instances.get? name with
  | none => bench
  | some _ => { pool := bench.pool.released, instances := bench.instances.without name }

/-- Make an instance under a name, in the place of the one that had it; the answer is the size of its
memory. -/
def instantiate (d : Decoder σ) (name : String) (bench : Bench σ) : Reply Nat × Bench σ :=
  match d.instantiate bench.pool with
  | (.error e, pool) => (Reply.refuse e, { bench with pool })
  | (.ok store, pool) =>
    let bench := { bench with pool }.dropped name
    (Reply.ok store.memory.size,
      { bench with instances := bench.instances.put name { store } })

/-- Drop what has a name; the answer tells whether there was anything. -/
def drop (name : String) (bench : Bench σ) : Reply Bool × Bench σ :=
  (Reply.ok (bench.instances.get? name).isSome, bench.dropped name)

/-- Look at the instance with a name, if there is one. -/
def inspect (name : String) (look : BenchInstance σ → α) (bench : Bench σ) : Option α :=
  (bench.instances.get? name).map look

/-- Run a computation on the instance with a name, if there is one, through the handle for a function. -/
def use (d : Decoder σ) (name function : String) (run : Host σ α) (bench : Bench σ) :
    Option (Reply α) × Bench σ :=
  match bench.instances.get? name with
  | none => (none, bench)
  | some i =>
    let i := i.used d.guest function
    let (result, scene) := run { store := i.store.within bench.pool.surroundings }
    let outcome := match result with
      | .ok a => .ok a
      | .error stop => .error (.stopped stop)
    (some { outcome, events := scene.events }, {
      pool := bench.pool.within scene.store.surroundings
      instances := bench.instances.put name { i with store := scene.store } })

/-- Look a function up; the answer is that its handle is resolved. -/
def resolve (d : Decoder σ) (name function : String) (bench : Bench σ) :
    Option (Reply Bool) × Bench σ :=
  bench.use d name function (do d.guest.resolve function; pure true)

/-- Call a function; a trap is a panic. -/
def call (d : Decoder σ) (name function : String) (arguments : List UInt64) (bench : Bench σ) :
    Option (Reply UInt64) × Bench σ :=
  bench.use d name function (d.guest.call function arguments)

/-- Call a function; a trap is given back as an error. -/
def tryCall (d : Decoder σ) (name function : String) (arguments : List UInt64) (bench : Bench σ) :
    Option (Reply (Except HostError UInt64)) × Bench σ :=
  bench.use d name function (d.guest.tryCall function arguments)

/-- Change the memory of the instance with a name, if there is one; a refused access leaves it as it
was. -/
def change (name : String) (edit : Memory → Except OutOfBounds Memory) (bench : Bench σ) :
    Option (Except OutOfBounds Unit) × Bench σ :=
  match bench.instances.get? name with
  | none => (none, bench)
  | some i =>
    match edit i.store.memory with
    | .error e => (some (.error e), bench)
    | .ok memory =>
      (some (.ok ()), { bench with
        instances := bench.instances.put name { i with store := { i.store with memory } } })

end Bench

end DecoderHost

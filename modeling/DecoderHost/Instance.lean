import DecoderHost.Decoder

/-!
Instances of a decoder: the pool that limits how many live at once, and what makes a fresh instance
ready.

An instance must export its memory. Its initialiser is run once: `_initialize` if that is a function
without parameters and results, else `_start` if that is one. An exit with status zero counts as a normal
end for `_start` only. What an initialiser does to its surroundings stays, whether the instance becomes ready or
not.
-/

namespace DecoderHost

/-- What instances share: the places of those alive, under a limit if there is one, and their surroundings. -/
structure Pool where
  capacity : Option Nat
  inUse : Nat := 0
  surroundings : Surroundings := {}
  deriving DecidableEq, Repr

namespace Pool

/-- The empty pool of an engine. -/
def ofConfig (config : EngineConfig) : Pool := { capacity := config.instanceLimit }

/-- Is there room for another instance? -/
def hasRoom (pool : Pool) : Bool :=
  match pool.capacity with
  | none => true
  | some capacity => pool.inUse < capacity

/-- The pool with one more instance alive. -/
def acquired (pool : Pool) : Pool := { pool with inUse := pool.inUse + 1 }

/-- The pool with one instance fewer. -/
def released (pool : Pool) : Pool := { pool with inUse := pool.inUse - 1 }

/-- The pool in other surroundings. -/
def within (pool : Pool) (surroundings : Surroundings) : Pool := { pool with surroundings }

@[simp] theorem released_acquired (pool : Pool) : pool.acquired.released = pool := rfl

/-- Without a limit there is always room. -/
theorem hasRoom_of_unlimited {pool : Pool} (h : pool.capacity = none) : pool.hasRoom := by
  unfold hasRoom
  rw [h]

end Pool

namespace Guest

variable {σ : Type}

/-- The name of the exported memory. -/
def memoryName : String := "memory"

/-- Is a function without parameters and results exported under this name? -/
def hasProcedure (g : Guest σ) (name : String) : Bool :=
  g.function? name == some ⟨[], []⟩

/-- The failure of an initialiser. -/
def initialiserError (name : String) (trap : Trap) : HostError :=
  .trap s!"{name}: {trap.message}"

/-- Run the initialiser, if there is one. -/
def initialise (g : Guest σ) : ExceptT HostError (StateM (Store σ)) Unit := fun store =>
  if g.hasProcedure "_initialize" then
    match g.invoke "_initialize" [] store with
    | (.ok _, store) => (.ok (), store)
    | (.error trap, store) => (.error (initialiserError "_initialize" trap), store)
  else if g.hasProcedure "_start" then
    match g.invoke "_start" [] store with
    | (.ok _, store) => (.ok (), store)
    | (.error (.exit 0), store) => (.ok (), store)
    | (.error trap, store) => (.error (initialiserError "_start" trap), store)
  else (.ok (), store)

/-- Make an instance that was set up ready for use. -/
def makeReady (g : Guest σ) : ExceptT HostError (StateM (Store σ)) Unit := do
  if g.export? memoryName = some .memory then g.initialise
  else throw (.exportNotFound memoryName)

end Guest

namespace Decoder

variable {σ : Type}

/-- The store of a fresh instance that is ready for use, and the surroundings that are left in any case. -/
def freshStore (d : Decoder σ) (surroundings : Surroundings) : Except HostError (Store σ) × Surroundings :=
  match d.guest.start d.engine.config.pageLimit surroundings with
  | .error (failure, surroundings) => (.error (.instantiationFailed failure.message), surroundings)
  | .ok store =>
    let (outcome, store) := d.guest.makeReady store
    (outcome.map fun () => store, store.surroundings)

/-- The failure to find room for an instance. -/
def noRoom : HostError :=
  .instantiationFailed "the limit of concurrent instances has been reached"

/-- Make an instance. It takes its place in the pool first, and gives it up again unless it becomes ready. -/
def instantiate (d : Decoder σ) (pool : Pool) : Except HostError (Store σ) × Pool :=
  if pool.hasRoom then
    match d.freshStore pool.surroundings with
    | (.ok store, surroundings) => (.ok store, pool.acquired.within surroundings)
    | (.error e, surroundings) => (.error e, pool.acquired.released.within surroundings)
  else (.error noRoom, pool)

end Decoder

end DecoderHost

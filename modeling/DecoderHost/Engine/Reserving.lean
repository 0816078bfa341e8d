import DecoderHost.Engine.Setup
import DecoderHost.Memory

/-!
A runtime that reserves the address space for all instances of a pool when the engine is created, which fails
if it is too much. It takes any settings of a cache that can be read.
-/

namespace DecoderHost

namespace PoolLimits

/-- The address space reserved for one memory: all that 32-bit addresses reach. -/
def memoryReservation : Nat := 4294967296

/-- The guard region that follows each reserved memory. -/
def memoryGuard : Nat := 33554432

/-- The user part of the address space. -/
def addressSpace : Nat := 140737488355328

/-- Can the pool be reserved? -/
def fits (limits : PoolLimits) : Bool :=
  limits.memoryBytes ≤ memoryReservation &&
    limits.instances * (memoryReservation + memoryGuard) < addressSpace

end PoolLimits

/-- The runtime that reserves its pools, over files of which it is known what can be read. -/
def Runtime.reserving {ω : Type} (contentsOf : ω → FileReader) : Runtime ω where
  loadCache path := fun setup world =>
    match contentsOf world path with
    | .ok _ => ((.ok (), { setup with cacheSettings := some path }), world)
    | .error fault => ((.error fault, setup), world)
  newEngine setup :=
    if setup.pool.all PoolLimits.fits then .ok () else .error "the memory pool does not fit the address space"
  admitMemory setup pages :=
    let limit := match setup.pool with
      | none => Memory.maxPages
      | some limits => limits.memoryBytes / Memory.pageSize
    if pages ≤ limit then .ok () else .error "the memory exceeds the limit of the pool"

end DecoderHost

import DecoderHost.Disassembler

/-!
Named things, and a fleet: disassemblers of one decoder under names, which share the decoder's pool and with it
their surroundings.

A disassembler that is opened under a name in use takes the place of the one that had it, which is then
dropped; a failed opening leaves it where it was.
-/

namespace DecoderHost

/-- Things under names. -/
abbrev Named (α : Type) := List (String × α)

namespace Named

variable {α : Type}

/-- What has a name. -/
def get? (things : Named α) (name : String) : Option α := things.lookup name

/-- Things without what has a name. -/
def without (things : Named α) (name : String) : Named α :=
  things.filter fun thing => thing.1 != name

/-- Things with a name given to something, and taken from what had it. -/
def put (things : Named α) (name : String) (a : α) : Named α :=
  (name, a) :: things.without name

end Named

/-- The disassemblers of one decoder, and the pool that their instances live in. -/
structure Fleet (σ : Type) where
  pool : Pool
  members : Named (Disassembler σ) := []

namespace Fleet

variable {σ : Type}

/-- A fleet without disassemblers. -/
def ofDecoder (d : Decoder σ) : Fleet σ := { pool := Pool.ofConfig d.engine.config }

/-- The fleet without what has a name; its instance is given up. -/
def dropped (fleet : Fleet σ) (name : String) : Fleet σ :=
  match fleet.members.get? name with
  | none => fleet
  | some x => { pool := (x.close fleet.pool).2, members := fleet.members.without name }

/-- Open a disassembler under a name. -/
def «open» (d : Decoder σ) (name : String) (arch : Arch) (mode : Mode) (fleet : Fleet σ) :
    Reply (Disassembler σ) × Fleet σ :=
  match Disassembler.open d arch mode fleet.pool with
  | (reply, pool) =>
    let fleet := { fleet with pool }
    match reply.outcome with
    | .error _ => (reply, fleet)
    | .ok x =>
      let fleet := fleet.dropped name
      (reply, { fleet with members := fleet.members.put name x })

/-- Decode on the disassembler with a name, if there is one. -/
def disassemble (d : Decoder σ) (steps : Nat) (name : String) (code : List UInt8)
    (fleet : Fleet σ) : Option (Reply Disassembly) × Fleet σ :=
  match fleet.members.get? name with
  | none => (none, fleet)
  | some x =>
    let others := fleet.members.without name
    let around := fleet.pool.surroundings
    let (reply, x) := Disassembler.disassemble d steps code (x.within around)
    (some reply, { pool := fleet.pool.within (x.surroundingsOr around), members := (name, x) :: others })

/-- Close the disassembler with a name, if there is one; the answer tells whether it is closed. -/
def close (name : String) (fleet : Fleet σ) : Option (Reply Bool) × Fleet σ :=
  match fleet.members.get? name with
  | none => (none, fleet)
  | some x =>
    let (x, pool) := x.close fleet.pool
    (some (Reply.ok x.isClosed), { pool, members := fleet.members.put name x })

/-- Drop what has a name; the answer tells whether there was anything. -/
def drop (name : String) (fleet : Fleet σ) : Reply Bool × Fleet σ :=
  (Reply.ok (fleet.members.get? name).isSome, fleet.dropped name)

end Fleet

end DecoderHost

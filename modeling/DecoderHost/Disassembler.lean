import DecoderHost.Instance
import DecoderHost.Session.Decode
import DecoderHost.Session.Open

/-!
Disassemblers: an engine opened for one architecture and mode, on an instance of its own. Closing gives
the instance up; to decode afterwards is a panic.
-/

namespace DecoderHost

/-- Why a request was not answered. -/
inductive Failure where
  | refused (error : OpenError)
  | stopped (stop : Stop)
  deriving DecidableEq, Repr

/-- What comes of a request: an answer or a failure, and the events recorded on the way. -/
structure Reply (α : Type) where
  outcome : Except Failure α
  events : Array Event := #[]

namespace Reply

variable {α : Type}

/-- An answer without events. -/
def ok (a : α) : Reply α := { outcome := .ok a }

/-- A failure without events. -/
def fail (failure : Failure) : Reply α := { outcome := .error failure }

/-- A failure reported by the host. -/
def refuse (e : HostError) : Reply α := fail (.refused (.host e))

end Reply

/-- An open session: the store of its instance, and the handle of the opened engine. -/
structure Session (σ : Type) where
  store : Store σ
  handle : UInt32

/-- A disassembler; it has no session once it is closed. -/
structure Disassembler (σ : Type) where
  arch : Arch
  mode : Mode
  session : Option (Session σ)

namespace Disassembler

variable {σ : Type}

/-- Open a disassembler on a fresh instance. Whatever goes wrong, the instance is given up again. -/
def «open» (d : Decoder σ) (arch : Arch) (mode : Mode) (pool : Pool) :
    Reply (Disassembler σ) × Pool :=
  match d.instantiate pool with
  | (.error e, pool) => (Reply.refuse e, pool)
  | (.ok store, pool) =>
    match Session.open d.guest arch mode { store } with
    | (.error stop, scene) =>
      ({ outcome := .error (.stopped stop), events := scene.events },
        pool.released.within scene.store.surroundings)
    | (.ok (.error e), scene) =>
      ({ outcome := .error (.refused e), events := scene.events },
        pool.released.within scene.store.surroundings)
    | (.ok (.ok handle), scene) =>
      let session := some { store := scene.store, handle }
      ({ outcome := .ok { arch, mode, session }, events := scene.events },
        pool.within scene.store.surroundings)

/-- How an opening ends: without room, without an instance that is ready, with a stop of the protocol, with a refusal
of the guest's, or with an open disassembler, which alone holds an instance. -/
inductive OpenEnds (d : Decoder σ) (arch : Arch) (mode : Mode) (pool : Pool) :
    Reply (Disassembler σ) × Pool → Prop
  | full (hroom : ¬ pool.hasRoom) : OpenEnds d arch mode pool (Reply.refuse Decoder.noRoom, pool)
  | unready {e : HostError} {left : Surroundings} (hroom : pool.hasRoom)
      (hstore : d.freshStore pool.surroundings = (.error e, left)) :
    OpenEnds d arch mode pool (Reply.refuse e, pool.within left)
  | stopped {store : Store σ} {left : Surroundings} {stop : Stop} {scene : Scene σ} (hroom : pool.hasRoom)
      (hstore : d.freshStore pool.surroundings = (.ok store, left))
      (hopen : Session.open d.guest arch mode { store } = (.error stop, scene)) :
    OpenEnds d arch mode pool
      ({ outcome := .error (.stopped stop), events := scene.events }, pool.within scene.store.surroundings)
  | refused {store : Store σ} {left : Surroundings} {e : OpenError} {scene : Scene σ} (hroom : pool.hasRoom)
      (hstore : d.freshStore pool.surroundings = (.ok store, left))
      (hopen : Session.open d.guest arch mode { store } = (.ok (.error e), scene)) :
    OpenEnds d arch mode pool
      ({ outcome := .error (.refused e), events := scene.events }, pool.within scene.store.surroundings)
  | opened {store : Store σ} {left : Surroundings} {handle : UInt32} {scene : Scene σ} (hroom : pool.hasRoom)
      (hstore : d.freshStore pool.surroundings = (.ok store, left))
      (hopen : Session.open d.guest arch mode { store } = (.ok (.ok handle), scene)) :
    OpenEnds d arch mode pool
      ({ outcome := .ok ⟨arch, mode, some ⟨scene.store, handle⟩⟩, events := scene.events },
        pool.acquired.within scene.store.surroundings)

theorem open_ends (d : Decoder σ) (arch : Arch) (mode : Mode) (pool : Pool) :
    OpenEnds d arch mode pool (Disassembler.open d arch mode pool) := by
  unfold Disassembler.open Decoder.instantiate
  by_cases hroom : pool.hasRoom
  · rw [if_pos hroom]
    rcases hstore : d.freshStore pool.surroundings with ⟨e | store, left⟩
    · exact .unready hroom hstore
    · dsimp only
      rcases hopen : Session.open d.guest arch mode { store } with ⟨stop | (e | handle), scene⟩
      · exact .stopped hroom hstore hopen
      · exact .refused hroom hstore hopen
      · exact .opened hroom hstore hopen
  · rw [if_neg hroom]
    exact .full hroom

/-- Is the disassembler closed? -/
def isClosed (x : Disassembler σ) : Bool := x.session.isNone

/-- Decode a byte string, with at most `steps` rounds of the guest. The session lives on after a panic. -/
def disassemble (d : Decoder σ) (steps : Nat) (code : List UInt8) :
    Disassembler σ → Reply Disassembly × Disassembler σ
  | ⟨arch, mode, none⟩ =>
    (Reply.fail (.stopped (.panic (.usedAfterClose arch))), ⟨arch, mode, none⟩)
  | ⟨arch, mode, some ⟨store, handle⟩⟩ =>
    match Session.disassemble d.guest handle steps code { store } with
    | (.ok decoded, scene) =>
      ({ outcome := .ok decoded, events := scene.events }, ⟨arch, mode, some ⟨scene.store, handle⟩⟩)
    | (.error stop, scene) =>
      ({ outcome := .error (.stopped stop), events := scene.events },
        ⟨arch, mode, some ⟨scene.store, handle⟩⟩)

/-- A decode in an open session comes to what the session comes to, and the session lives on. -/
theorem disassemble_opened (d : Decoder σ) (steps : Nat) (code : List UInt8) (arch : Arch) (mode : Mode)
    (store : Store σ) (handle : UInt32) :
    disassemble d steps code ⟨arch, mode, some ⟨store, handle⟩⟩ =
      match Session.disassemble d.guest handle steps code { store } with
      | (outcome, scene) => ({ outcome := outcome.mapError .stopped, events := scene.events },
        ⟨arch, mode, some ⟨scene.store, handle⟩⟩) := by
  rw [disassemble]
  rcases Session.disassemble d.guest handle steps code { store } with ⟨stop | decoded, scene⟩ <;> rfl

/-- The disassembler in other surroundings, if it has a session that could tell. -/
def within (x : Disassembler σ) (surroundings : Surroundings) : Disassembler σ :=
  { x with session := x.session.map fun s => { s with store := s.store.within surroundings } }

/-- The surroundings as the disassembler has left them, and those from before if it is closed. -/
def surroundingsOr (x : Disassembler σ) (before : Surroundings) : Surroundings :=
  match x.session with
  | none => before
  | some s => s.store.surroundings

/-- Close the disassembler, and give its instance up unless it was closed before. -/
def close (x : Disassembler σ) (pool : Pool) : Disassembler σ × Pool :=
  match x.session with
  | none => (x, pool)
  | some _ => ({ x with session := none }, pool.released)

/-- The disassembler by its parts. -/
def debug (x : Disassembler σ) : String :=
  s!"Capstone \x7b arch: {x.arch.symbol}, mode: {x.mode.debug}, closed: {x.isClosed} \x7d"

end Disassembler

end DecoderHost

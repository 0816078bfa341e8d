import DecoderHost.Guest.Probe
import DecoderHost.Guest.Scripted
import DecoderHost.Guest.StandIn

/-!
The modules whose behaviour is known here, as one kind of guest.

A guest can be carried over to a larger kind of state, in which its own state is one of several. An inert
module is known by its exports and its memory alone; none of its functions may be called.
-/

namespace DecoderHost

/-- A guest over a larger kind of state, into which its own is put and from which it is taken. -/
def Guest.over {σ τ : Type} (put : σ → τ) (take : τ → σ) (g : Guest σ) : Guest τ where
  exports := g.exports
  initialPages := g.initialPages
  start limit surroundings := (g.start limit surroundings).map (Store.map put)
  invoke name arguments := fun s =>
    match g.invoke name arguments (s.map take) with
    | (result, s) => (result, s.map put)

namespace Inert

/-- A module of which only the exports and the size of the memory are known. -/
def guest (exports : List (String × Export)) (pages : Nat) : Guest Unit where
  exports := exports
  initialPages := pages
  start limit surroundings := .ok {
    memory := Memory.ofPages pages
    pageLimit := min limit Memory.maxPages
    globals := ()
    surroundings }
  invoke _ _ := GuestAction.trap .unreachable

end Inert

/-- A module whose behaviour is known. -/
inductive Native where
  | standIn
  | probe
  | scripted (script : Script)
  | inert (exports : List (String × Export)) (pages : Nat)

namespace Native

/-- The state of a live instance of any of them, its memory apart. -/
inductive State where
  | standIn (globals : StandIn.Globals)
  | probe (calls : UInt32)
  | scripted (globals : Scripted.Globals)
  | inert
  deriving DecidableEq, Repr

namespace State

/-- The state as one of the stand-in. -/
def toStandIn : State → StandIn.Globals
  | standIn globals => globals
  | _ => {}

/-- The state as one of the probe. -/
def toProbe : State → UInt32
  | probe calls => calls
  | _ => 0

/-- The state as one of a scripted decoder. -/
def toScripted : State → Scripted.Globals
  | scripted globals => globals
  | _ => {}

end State

/-- The behaviour of a known module. -/
def guest : Native → Guest State
  | standIn => StandIn.guest.over .standIn State.toStandIn
  | probe => Probe.guest.over .probe State.toProbe
  | scripted script => (Scripted.guest script).over .scripted State.toScripted
  | inert exports pages => (Inert.guest exports pages).over (fun _ => .inert) fun _ => ()

end Native

end DecoderHost

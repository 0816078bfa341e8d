import DecoderHost.Guest.Native
import DecoderHost.Module

/-!
The modules that can be run, and the compiler that accepts these and no others.

A module text is known by its bytes. Where a binary is asked for, a stub stands for a known module: it
holds nothing but a custom section with the name of the module.
-/

namespace DecoderHost.Native

/-- The header of a binary of version one. -/
def header : List UInt8 := Module.magic ++ [0x01, 0x00, 0x00, 0x00]

/-- The name of the custom section of a stub. -/
def sectionName : String := "native"

/-- A stub with a name in it; the name is a short one. -/
def stub (name : String) : List UInt8 :=
  let label := sectionName.toUTF8.toList
  let payload := UInt8.ofNat label.length :: label ++ name.toUTF8.toList
  header ++ 0x00 :: UInt8.ofNat payload.length :: payload

/-- The modules that stubs can name. -/
def named : List (String × Native) := [("stand-in", standIn), ("probe", probe)]

/-- The module that a stub stands for. -/
def ofStub? (bytes : List UInt8) : Option Native :=
  (named.find? fun entry => stub entry.1 == bytes).map Prod.snd

/-- The module that a module text describes, if it is a known one. -/
def ofText? (bytes : List UInt8) : Option Native :=
  if bytes = StandIn.source.toUTF8.toList then some standIn
  else if bytes = Probe.source.toUTF8.toList then some probe
  else none

/-- The known module that bytes in a format stand for. -/
def known? : ModuleFormat → List UInt8 → Option Native
  | .binary, bytes => ofStub? bytes
  | .text, bytes => ofText? bytes

/-- The compiler that accepts the known modules. -/
def compiler : Compiler State := fun format bytes =>
  match known? format bytes with
  | some native => .ok native.guest
  | none => .error "the module is not among those that can be run"

end DecoderHost.Native

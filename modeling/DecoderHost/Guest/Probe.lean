import DecoderHost.Guest.Action
import DecoderHost.Guest.Probe.Source

/-!
The probe: a module that is no decoder, with functions of many signatures to exercise the calls between
host and guest.
-/

namespace DecoderHost.Probe

/-- What the probe's code does; its one variable counts calls. -/
abbrev Code := GuestAction UInt32

open GuestAction

/-- The sign of a word, repeated over the upper half of a word twice as wide. -/
def extendSigned (x : UInt32) : UInt64 :=
  if x < 0x80000000 then x.toUInt64 else x.toUInt64 ||| 0xFFFFFFFF00000000

/-- The quotient of two signed words, towards zero. -/
def divideSigned (a b : UInt32) : Code UInt32 :=
  if b = 0 then trap .divideByZero
  else if a = 0x80000000 ∧ b = 0xFFFFFFFF then trap .integerOverflow
  else pure (a.toInt32 / b.toInt32).toUInt32

/-- The signature of each function. -/
def functions : List (String × Signature) :=
  [("add", ⟨[.i32, .i32], [.i32]⟩), ("wide", ⟨[.i64], [.i64]⟩), ("negative", ⟨[], [.i32]⟩),
    ("negative64", ⟨[], [.i64]⟩), ("poke", ⟨[.i32, .i32], []⟩), ("peek", ⟨[.i32], [.i32]⟩),
    ("grow", ⟨[.i32], [.i32]⟩), ("calls", ⟨[], [.i32]⟩), ("nothing", ⟨[], []⟩),
    ("boom", ⟨[.i32], [.i32]⟩), ("div", ⟨[.i32, .i32], [.i32]⟩), ("recurse", ⟨[.i32], [.i32]⟩),
    ("mixed", ⟨[.i32, .i64, .i32], [.i64]⟩), ("five", ⟨List.replicate 5 .i32, [.i32]⟩),
    ("pair", ⟨[.i32], [.i32, .i64]⟩), ("float", ⟨[.f32], [.i32]⟩),
    ("late_float", ⟨[.i32, .f64], [.i32]⟩), ("float_result", ⟨[], [.f32]⟩),
    ("double_result", ⟨[.i32], [.f64]⟩), ("vector", ⟨[.v128], [.i32]⟩)]

/-- What calling an exported function does. -/
def invoke : String → List Value → Code (List Value)
  | "add", [.i32 a, .i32 b] => do
    modifyGlobals (· + 1)
    pure [.i32 (a + b)]
  | "wide", [.i64 a] => pure [.i64 (a + 1)]
  | "negative", [] => pure [.i32 0xFFFFFFFF]
  | "negative64", [] => pure [.i64 0xFFFFFFFFFFFFFFFF]
  | "poke", [.i32 address, .i32 value] => do
    store8 address value.toUInt8
    pure []
  | "peek", [.i32 address] => do
    let b ← load8 address
    pure [.i32 (if b < 0x80 then b.toUInt32 else b.toUInt32 ||| 0xFFFFFF00)]
  | "grow", [.i32 pages] => do pure [.i32 (← growMemory pages)]
  | "calls", [] => do pure [.i32 (← globals)]
  | "nothing", [] => pure []
  | "boom", _ => trap .unreachable
  | "div", [.i32 a, .i32 b] => do pure [.i32 (← divideSigned a b)]
  | "recurse", _ => trap .stackExhausted
  | "mixed", [.i32 a, .i64 b, .i32 c] => pure [.i64 (extendSigned a + b + c.toUInt64)]
  | "five", [.i32 a, .i32 b, .i32 c, .i32 d, .i32 e] => pure [.i32 (a * b - (c + d * e))]
  | "pair", [.i32 a] => pure [.i32 (a + 1), .i64 0xFFFFFFFFFFFFFFFB]
  | "float", _ => pure [.i32 0]
  | "late_float", _ => pure [.i32 0]
  | "float_result", [] => pure [.f32 0x3FC00000]
  | "double_result", [_] => do
    modifyGlobals (· + 1)
    pure [.f64 0xC000000000000000]
  | "vector", _ => pure [.i32 0]
  | _, _ => trap .unreachable

/-- The memory of a fresh probe: two texts, one after the other. -/
def initialMemory : Memory :=
  (Memory.ofPages 1).patch 64 ("hello".toUTF8.toList ++ [0] ++ "world".toUTF8.toList ++ [0])

/-- The probe. -/
def guest : Guest UInt32 where
  exports := ("memory", .memory) :: ("a_global", .global) ::
    functions.map fun (name, signature) => (name, .function signature)
  initialPages := 1
  start limit surroundings := .ok { memory := initialMemory, pageLimit := min limit 4, globals := 0, surroundings }
  invoke := invoke

end DecoderHost.Probe

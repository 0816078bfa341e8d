import DecoderHost.Guest.Basic

/-!
What guest code can do to its memory: load and store little-endian numbers at 32-bit addresses, with a
fixed offset that does not wrap, and grow by whole pages. An access outside the memory traps and changes
nothing.
-/

namespace DecoderHost.GuestAction

variable {σ α : Type}

/-- Stop with a trap. -/
def trap (t : Trap) : GuestAction σ α := throw t

/-- Load `count` bytes as a number. -/
def load (count : Nat) (address : UInt32) (offset : Nat) : GuestAction σ Nat := fun s =>
  let start := address.toNat + offset
  if start + count ≤ s.memory.size then
    (.ok (Word.ofLittleEndian (s.memory.slice start count)), s)
  else (.error .outOfBounds, s)

/-- Store bytes. -/
def store (bytes : List UInt8) (address : UInt32) (offset : Nat) : GuestAction σ Unit := fun s =>
  let start := address.toNat + offset
  if start + bytes.length ≤ s.memory.size then
    (.ok (), { s with memory := s.memory.patch start bytes })
  else (.error .outOfBounds, s)

/-- Load one byte. -/
def load8 (address : UInt32) (offset : Nat := 0) : GuestAction σ UInt8 := fun s =>
  match s.memory.get? (address.toNat + offset) with
  | some b => (.ok b, s)
  | none => (.error .outOfBounds, s)

/-- Load a word of four bytes. -/
def load32 (address : UInt32) (offset : Nat := 0) : GuestAction σ UInt32 :=
  UInt32.ofNat <$> load 4 address offset

/-- Load a word of eight bytes. -/
def load64 (address : UInt32) (offset : Nat := 0) : GuestAction σ UInt64 :=
  UInt64.ofNat <$> load 8 address offset

/-- Store one byte. -/
def store8 (address : UInt32) (value : UInt8) (offset : Nat := 0) : GuestAction σ Unit :=
  store [value] address offset

/-- Store a word of four bytes. -/
def store32 (address value : UInt32) (offset : Nat := 0) : GuestAction σ Unit :=
  store (Word.littleEndian 4 value.toNat) address offset

/-- Store a word of eight bytes. -/
def store64 (address : UInt32) (value : UInt64) (offset : Nat := 0) : GuestAction σ Unit :=
  store (Word.littleEndian 8 value.toNat) address offset

/-- The number of pages of the memory. -/
def memoryPages : GuestAction σ UInt32 := fun s => (.ok (UInt32.ofNat s.memory.pages), s)

/-- Grow the memory by whole pages: the number of pages before, or all bits set when there is no room. -/
def growMemory (delta : UInt32) : GuestAction σ UInt32 := fun s =>
  let before := UInt32.ofNat s.memory.pages
  match s.memory.grow? s.pageLimit delta.toNat with
  | some grown => (.ok before, { s with memory := grown })
  | none => (.ok 0xFFFFFFFF, s)

/-- Change the rest of the guest's state. -/
def modifyGlobals (f : σ → σ) : GuestAction σ Unit := fun s =>
  (.ok (), { s with globals := f s.globals })

/-- Read the rest of the guest's state. -/
def globals : GuestAction σ σ := fun s => (.ok s.globals, s)

end DecoderHost.GuestAction

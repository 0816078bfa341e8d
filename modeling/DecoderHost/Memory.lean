import DecoderHost.Text.Numeral
import DecoderHost.Word

/-!
The linear memory of a guest: a byte array of at most 2^32 bytes, addressed by 32-bit addresses.

Every access is checked against the size without wrap-around; a refused access says where it was, how
long it was and how large the memory is, and leaves the memory as it was. Words are little-endian. Text
in the guest ends at its first zero byte.
-/

namespace DecoderHost

/-- An access that does not lie inside the memory. -/
structure OutOfBounds where
  address : UInt32
  length : Nat
  size : Nat
  deriving DecidableEq, Repr

/-- The wording of a refused access. -/
def OutOfBounds.message (e : OutOfBounds) : String :=
  s!"out of bounds access: {e.length} bytes at {Text.hexAddress e.address.toNat} " ++
    s!"(memory size {Text.hexAddress e.size})"

/-- Why a range cannot be copied out: no buffer is so long, or it does not lie inside the memory. -/
inductive CopyFault where
  | capacityOverflow
  | outOfBounds (e : OutOfBounds)
  deriving DecidableEq, Repr

/-- The wording of a refused copy. -/
def CopyFault.message : CopyFault → String
  | capacityOverflow => "capacity overflow"
  | outOfBounds e => e.message

/-- A linear memory; its size fits the 32-bit address space. -/
structure Memory where
  bytes : ByteArray
  size_le : bytes.size ≤ 4294967296

namespace Memory

/-- The bytes in one page. -/
def pageSize : Nat := 65536

/-- The most pages a 32-bit address space can hold. -/
def maxPages : Nat := 65536

/-- The greatest length of a buffer outside the guest. -/
def maxBuffer : Nat := 9223372036854775807

/-- The number of bytes. -/
def size (m : Memory) : Nat := m.bytes.size

/-- The byte at index `i`, if the memory reaches that far. -/
def get? (m : Memory) (i : Nat) : Option UInt8 := m.bytes[i]?

/-- Does the range of `length` bytes from `address` lie inside the memory? -/
def covers (m : Memory) (address : UInt32) (length : Nat) : Bool :=
  address.toNat + length ≤ m.size

/-- The `length` bytes from index `start`, where a byte past the end counts as zero. -/
def slice (m : Memory) (start length : Nat) : List UInt8 :=
  List.ofFn fun i : Fin length => (m.get? (start + i)).getD 0

/-- Put the bytes of a list from index `i` on, as far as the array reaches. -/
def overwrite : List UInt8 → Nat → ByteArray → ByteArray
  | [], _, target => target
  | b :: rest, i, target =>
    if h : i < target.size then overwrite rest (i + 1) (target.set i b h) else target

@[simp] theorem size_overwrite (source : List UInt8) (i : Nat) (target : ByteArray) :
    (overwrite source i target).size = target.size := by
  induction source generalizing i target with
  | nil => rfl
  | cons b rest ih =>
    simp only [overwrite]
    split
    · rw [ih, ← ByteArray.size_data, ByteArray.data_set, Array.size_set, ByteArray.size_data]
    · rfl

/-- Put the bytes of a list from index `start` on. -/
def patch (m : Memory) (start : Nat) (source : List UInt8) : Memory where
  bytes := overwrite source start m.bytes
  size_le := by simpa using m.size_le

@[simp] theorem size_patch (m : Memory) (start : Nat) (source : List UInt8) :
    (m.patch start source).size = m.size := by
  simp [patch, size]

/-- A memory of zero bytes. -/
def zeroed (size : Nat) (h : size ≤ 4294967296) : Memory where
  bytes := ⟨Array.replicate size 0⟩
  size_le := by simpa [ByteArray.size] using h

/-- A memory of whole pages of zero bytes; a count beyond the address space is cut to it. -/
def ofPages (pages : Nat) : Memory :=
  zeroed (min pages maxPages * pageSize) (by
    have h : min pages maxPages ≤ 65536 := Nat.min_le_right ..
    show min pages maxPages * 65536 ≤ 4294967296
    omega)

/-- The number of whole pages. -/
def pages (m : Memory) : Nat := m.size / pageSize

/-- Append pages of zero bytes; refused when that would pass `limit` pages or the address space. -/
def grow? (m : Memory) (limit delta : Nat) : Option Memory :=
  if h : m.size + delta * pageSize ≤ min limit maxPages * pageSize then
    some {
      bytes := m.bytes ++ ⟨Array.replicate (delta * pageSize) 0⟩
      size_le := by
        have h' : min limit maxPages ≤ 65536 := Nat.min_le_right ..
        simp only [size, pageSize] at h
        simp only [ByteArray.size_append, pageSize]
        rw [show (⟨Array.replicate (delta * 65536) (0 : UInt8)⟩ : ByteArray).size = delta * 65536 by
          simp [ByteArray.size]]
        omega }
  else none

/-! ## Checked access -/

/-- Read `length` bytes from `address`. -/
def read (m : Memory) (address : UInt32) (length : Nat) : Except OutOfBounds (List UInt8) :=
  if m.covers address length then .ok (m.slice address.toNat length)
  else .error ⟨address, length, m.size⟩

/-- Copy `length` bytes from `address` into a buffer of their own. A length that no buffer can have is refused
before the range is looked at. -/
def copy (m : Memory) (address : UInt32) (length : Nat) : Except CopyFault (List UInt8) :=
  if maxBuffer < length then .error .capacityOverflow
  else (m.read address length).mapError .outOfBounds

/-- Write bytes from `address` on. -/
def write (m : Memory) (address : UInt32) (source : List UInt8) : Except OutOfBounds Memory :=
  if m.covers address source.length then .ok (m.patch address.toNat source)
  else .error ⟨address, source.length, m.size⟩

/-- Read one byte. -/
def readByte (m : Memory) (address : UInt32) : Except OutOfBounds UInt8 :=
  match m.get? address.toNat with
  | some b => .ok b
  | none => .error ⟨address, 1, m.size⟩

/-- Read a little-endian word of four bytes. -/
def readWord32 (m : Memory) (address : UInt32) : Except OutOfBounds UInt32 :=
  (m.read address 4).map fun bytes => UInt32.ofNat (Word.ofLittleEndian bytes)

/-- Read a little-endian word of eight bytes. -/
def readWord64 (m : Memory) (address : UInt32) : Except OutOfBounds UInt64 :=
  (m.read address 8).map fun bytes => UInt64.ofNat (Word.ofLittleEndian bytes)

/-- Write a little-endian word of four bytes. -/
def writeWord32 (m : Memory) (address value : UInt32) : Except OutOfBounds Memory :=
  m.write address (Word.littleEndian 4 value.toNat)

/-- Write a little-endian word of eight bytes. -/
def writeWord64 (m : Memory) (address : UInt32) (value : UInt64) : Except OutOfBounds Memory :=
  m.write address (Word.littleEndian 8 value.toNat)

/-- Carry out edits in turn, up to the first that is refused; what was written before it stays. -/
def editAll : List (Memory → Except OutOfBounds Memory) → Memory → Except OutOfBounds Unit × Memory
  | [], m => (.ok (), m)
  | edit :: rest, m =>
    match edit m with
    | .ok edited => editAll rest edited
    | .error e => (.error e, m)

/-! ## Terminated text -/

/-- Walk forward from `cursor` to the first zero byte and read everything from `start` up to it. The
walk ends with an error at the end of the memory or of the address space. -/
def scan (m : Memory) (start cursor : UInt32) : Except OutOfBounds (List UInt8) :=
  match m.readByte cursor with
  | .error e => .error e
  | .ok b =>
    if b = 0 then m.read start (cursor - start).toNat
    else if h : cursor.toNat + 1 < 4294967296 then scan m start (cursor + 1)
    else .error ⟨start, (cursor - start).toNat + 1, m.size⟩
termination_by 4294967296 - cursor.toNat
decreasing_by
  have : (cursor + 1).toNat = cursor.toNat + 1 := by
    rw [UInt32.toNat_add]; simp; omega
  omega

/-- Read the bytes from `address` up to the first zero byte, which is not part of the result. -/
def readTerminated (m : Memory) (address : UInt32) : Except OutOfBounds (List UInt8) :=
  m.scan address address

end Memory

end DecoderHost

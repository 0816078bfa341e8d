import DecoderHost.Proofs.Memory.Patch
import Mathlib.Data.List.Induction

/-!
# A memory and its journal

Any number of reads and writes are carried out on a memory, at addresses that may lie anywhere and overlap in
any way. A journal of the writes that fit tells all there is to know: whether an access is accepted depends on
its range and the size alone, a byte is the one that was stored there last, and an access that is refused has
not taken place.
-/

namespace DecoderHost.Memory

/-! ## Accesses -/

/-- An access to a memory. -/
inductive Access where
  | read (address : UInt32) (length : Nat)
  | readByte (address : UInt32)
  | readWord32 (address : UInt32)
  | readWord64 (address : UInt32)
  | write (address : UInt32) (source : List UInt8)
  | writeWord32 (address value : UInt32)
  | writeWord64 (address : UInt32) (value : UInt64)
  deriving DecidableEq, Repr

/-- What an access is answered with. -/
inductive Datum where
  | bytes (bytes : List UInt8)
  | byte (byte : UInt8)
  | word32 (word : UInt32)
  | word64 (word : UInt64)
  | stored
  deriving DecidableEq, Repr

/-- The outcome of a read. -/
def looked {α : Type} (seen : α → Datum) : Except OutOfBounds α → Except CopyFault Datum
  | .ok a => .ok (seen a)
  | .error e => .error (.outOfBounds e)

/-- The outcome of a write, and the memory after it: if the write is refused, the memory as it was. -/
def altered (m : Memory) : Except OutOfBounds Memory → Except CopyFault Datum × Memory
  | .ok changed => (.ok .stored, changed)
  | .error e => (.error (.outOfBounds e), m)

/-- Carry out an access. -/
def perform (m : Memory) : Access → Except CopyFault Datum × Memory
  | .read address length => ((m.copy address length).map .bytes, m)
  | .readByte address => (looked .byte (m.readByte address), m)
  | .readWord32 address => (looked .word32 (m.readWord32 address), m)
  | .readWord64 address => (looked .word64 (m.readWord64 address), m)
  | .write address source => m.altered (m.write address source)
  | .writeWord32 address value => m.altered (m.writeWord32 address value)
  | .writeWord64 address value => m.altered (m.writeWord64 address value)

/-- The memory after accesses in turn, whether they are accepted or not. -/
def after (m : Memory) (accesses : List Access) : Memory :=
  accesses.foldl (fun m x => (m.perform x).2) m

namespace Access

/-- Where an access begins. -/
def address : Access → UInt32
  | read address _ | readByte address | readWord32 address | readWord64 address => address
  | write address _ | writeWord32 address _ | writeWord64 address _ => address

/-- The number of bytes that an access is about. -/
def width : Access → Nat
  | read _ length => length
  | readByte _ => 1
  | readWord32 _ | writeWord32 .. => 4
  | readWord64 _ | writeWord64 .. => 8
  | write _ source => source.length

/-- The bytes that an access is to store, if it is a write. -/
def source? : Access → Option (List UInt8)
  | read .. | readByte _ | readWord32 _ | readWord64 _ => none
  | write _ source => some source
  | writeWord32 _ value => some (Word.littleEndian 4 value.toNat)
  | writeWord64 _ value => some (Word.littleEndian 8 value.toNat)

/-- The answer to an access in whose range these bytes lie. -/
def answer (found : List UInt8) : Access → Datum
  | read .. => .bytes found
  | readByte _ => .byte (found.headD 0)
  | readWord32 _ => .word32 (UInt32.ofNat (Word.ofLittleEndian found))
  | readWord64 _ => .word64 (UInt64.ofNat (Word.ofLittleEndian found))
  | write .. | writeWord32 .. | writeWord64 .. => .stored

/-- Does the range of an access lie inside a memory of some size? The end of the range is a natural number, so
that it does not wrap around. -/
def Fits (x : Access) (size : Nat) : Prop := x.address.toNat + x.width ≤ size

instance (x : Access) (size : Nat) : Decidable (x.Fits size) :=
  inferInstanceAs (Decidable (_ ≤ _))

theorem length_source {x : Access} {source : List UInt8} (h : x.source? = some source) :
    source.length = x.width := by
  cases x <;> cases h <;> simp [width]

end Access

/-! ## One access -/

section

variable {m : Memory} {address : UInt32}

theorem copy_of_le {length : Nat} (hlength : length ≤ maxBuffer) :
    (m.copy address length).map Datum.bytes = looked .bytes (m.read address length) := by
  rw [copy, if_neg (by omega)]
  cases m.read address length <;> rfl

end

/-- A write stores its bytes, or leaves the memory as it is. -/
theorem perform_of_source {m : Memory} {x : Access} {source : List UInt8} (h : x.source? = some source) :
    m.perform x = m.altered (m.write x.address source) := by
  cases x <;> cases h <;> rfl

/-- An access that does not fit is refused with its range and the size, and changes nothing. -/
theorem perform_of_not_fits {m : Memory} {x : Access} (hwidth : x.width ≤ maxBuffer) (h : ¬ x.Fits m.size) :
    m.perform x = (.error (.outOfBounds ⟨x.address, x.width, m.size⟩), m) := by
  cases hsource : x.source? with
  | some source =>
    rw [Access.Fits, ← Access.length_source hsource] at h
    rw [perform_of_source hsource, write_eq_error h, altered, Access.length_source hsource]
  | none =>
    cases x with
    | read address length =>
      have hread : m.read address length = _ := read_eq_error h
      have hlength : length ≤ maxBuffer := hwidth
      rw [perform, copy_of_le hlength, hread]
      rfl
    | readByte address =>
      have hread : m.readByte address = _ := readByte_eq_error h
      rw [perform, hread]
      rfl
    | readWord32 address =>
      have hread : m.read address 4 = _ := read_eq_error h
      rw [perform, readWord32, hread]
      rfl
    | readWord64 address =>
      have hread : m.read address 8 = _ := read_eq_error h
      rw [perform, readWord64, hread]
      rfl
    | write | writeWord32 | writeWord64 => cases hsource

/-- A read that fits finds what lies in its range, and changes nothing. -/
theorem perform_of_read {m : Memory} {x : Access} (hwidth : x.width ≤ maxBuffer) (h : x.Fits m.size)
    (hsource : x.source? = none) :
    m.perform x = (.ok (x.answer (m.slice x.address.toNat x.width)), m) := by
  cases x with
  | read address length =>
    have hread : m.read address length = .ok (m.slice address.toNat length) := read_eq_ok.mpr ⟨h, rfl⟩
    have hlength : length ≤ maxBuffer := hwidth
    rw [perform, copy_of_le hlength, hread]
    rfl
  | readByte address =>
    have hread : m.readByte address = .ok (m.byteAt address.toNat) := readByte_eq_ok.mpr ⟨h, rfl⟩
    have hslice : m.slice address.toNat 1 = [m.byteAt address.toNat] := slice_succ ..
    show (looked Datum.byte (m.readByte address), m) = (.ok (.byte ((m.slice address.toNat 1).headD 0)), m)
    rw [hread, hslice]
    rfl
  | readWord32 address =>
    have hread : m.readWord32 address = .ok (m.word32 address.toNat) := readWord32_eq_ok.mpr ⟨h, rfl⟩
    rw [perform, hread]
    rfl
  | readWord64 address =>
    have hread : m.readWord64 address = .ok (m.word64 address.toNat) := readWord64_eq_ok.mpr ⟨h, rfl⟩
    rw [perform, hread]
    rfl
  | write | writeWord32 | writeWord64 => cases hsource

/-- A write that fits puts its bytes into its range. -/
theorem perform_of_write {m : Memory} {x : Access} {source : List UInt8} (h : x.Fits m.size)
    (hsource : x.source? = some source) :
    m.perform x = (.ok .stored, m.patch x.address.toNat source) := by
  have hfits : x.address.toNat + source.length ≤ m.size := by
    rw [Access.length_source hsource]
    exact h
  rw [perform_of_source hsource, write_eq_ok.mpr ⟨hfits, rfl⟩, altered]

/-- No access changes the size. -/
theorem size_perform (m : Memory) (x : Access) : (m.perform x).2.size = m.size := by
  cases hsource : x.source? with
  | some source =>
    rw [perform_of_source hsource, write]
    split
    · exact size_patch ..
    · rfl
  | none => cases x <;> first | rfl | cases hsource

/-! ## The journal -/

/-- Stores that took place, the last one first: where each began, and which bytes it stored. -/
abbrev Journal := List (Nat × List UInt8)

namespace Journal

/-- The byte that was stored last at an index; what was there initially, if none was. -/
def lastStored (initial : Nat → UInt8) : Journal → Nat → UInt8
  | [], i => initial i
  | (start, source) :: earlier, i =>
    if start ≤ i ∧ i < start + source.length then source[i - start]?.getD 0
    else lastStored initial earlier i

/-- The bytes that were stored last in a range. -/
def lastStoredIn (journal : Journal) (initial : Nat → UInt8) (start length : Nat) : List UInt8 :=
  (List.range length).map fun k => journal.lastStored initial (start + k)

/-- The store that an access is, if it is a write and fits. -/
def store? (size : Nat) (x : Access) : Option (Nat × List UInt8) :=
  if x.Fits size then x.source?.map fun source => (x.address.toNat, source) else none

/-- The journal of accesses in turn. -/
def ofAccesses (size : Nat) (accesses : List Access) : Journal :=
  (accesses.filterMap (store? size)).reverse

/-- One more access adds its store, if it is one. -/
theorem ofAccesses_append (size : Nat) (accesses : List Access) (x : Access) :
    ofAccesses size (accesses ++ [x]) = (store? size x).toList ++ ofAccesses size accesses := by
  cases h : store? size x <;> simp [ofAccesses, h]

end Journal

/-- The journal tells every byte. -/
structure KnownBy (m : Memory) (initial : Nat → UInt8) (journal : Journal) : Prop where
  byteAt : ∀ i < m.size, m.byteAt i = journal.lastStored initial i

variable {m : Memory} {initial : Nat → UInt8} {journal : Journal}

theorem KnownBy.slice (h : m.KnownBy initial journal) {start length : Nat} (hfits : start + length ≤ m.size) :
    m.slice start length = journal.lastStoredIn initial start length := by
  apply List.ext_getElem
  · simp [Journal.lastStoredIn]
  · intro i hi _
    rw [length_slice] at hi
    rw [getElem_slice, h.byteAt (start + i) (by omega)]
    simp [Journal.lastStoredIn]

/-- After one more access the journal with its store tells every byte. -/
theorem KnownBy.perform (h : m.KnownBy initial journal) {x : Access} (hwidth : x.width ≤ maxBuffer) :
    (m.perform x).2.KnownBy initial ((Journal.store? m.size x).toList ++ journal) where
  byteAt i hi := by
    rw [size_perform] at hi
    by_cases hfits : x.Fits m.size
    · cases hsource : x.source? with
      | none =>
        rw [perform_of_read hwidth hfits hsource, Journal.store?, if_pos hfits, hsource]
        exact h.byteAt i hi
      | some source =>
        rw [perform_of_write hfits hsource, Journal.store?, if_pos hfits, hsource]
        show (m.patch x.address.toNat source).byteAt i = _
        rw [byteAt_patch]
        by_cases hin : x.address.toNat ≤ i ∧ i < x.address.toNat + source.length
        · rw [if_pos ⟨hin.1, hin.2, hi⟩]
          exact (if_pos hin).symm
        · rw [if_neg fun hall => hin ⟨hall.1, hall.2.1⟩, h.byteAt i hi]
          exact (if_neg hin).symm
    · rw [perform_of_not_fits hwidth hfits, Journal.store?, if_neg hfits]
      exact h.byteAt i hi

/-- The journal of any number of accesses tells every byte of the memory after them, and its size is the same. -/
theorem knownBy_after (m : Memory) (accesses : List Access) (hwidths : ∀ x ∈ accesses, x.width ≤ maxBuffer) :
    (m.after accesses).size = m.size ∧
      (m.after accesses).KnownBy m.byteAt (Journal.ofAccesses m.size accesses) := by
  -- The last access comes after all others have been written down.
  induction accesses using List.reverseRecOn with
  | nil => exact ⟨rfl, ⟨fun _ _ => rfl⟩⟩
  | append_singleton accesses x ih =>
    obtain ⟨hsize, hknown⟩ := ih fun y hy => hwidths y (List.mem_append_left _ hy)
    have hlast : m.after (accesses ++ [x]) = ((m.after accesses).perform x).2 := by
      simp [after]
    have hstep := hknown.perform (hwidths x (List.mem_append_right _ List.mem_cons_self))
    rw [hsize] at hstep
    rw [hlast, Journal.ofAccesses_append]
    exact ⟨(size_perform _ x).trans hsize, hstep⟩

/-- **A memory is known by its journal.** After any accesses, the size is what it was. An access that fits is
accepted: it is answered by the bytes last stored in its range, and it changes the bytes of its range into
those that it is to store, and no others. An access that does not fit is refused with its range and the size,
and leaves the memory as it is. -/
theorem perform_after (m : Memory) (before : List Access) (x : Access)
    (hbefore : ∀ y ∈ before, y.width < 4294967296) (hx : x.width < 4294967296) :
    (m.after before).size = m.size ∧
      (x.Fits m.size →
        ((m.after before).perform x).1 = .ok (x.answer
            ((Journal.ofAccesses m.size before).lastStoredIn m.byteAt x.address.toNat x.width)) ∧
          ∀ i < m.size, ((m.after before).perform x).2.byteAt i =
            match x.source? with
            | some source =>
              if x.address.toNat ≤ i ∧ i < x.address.toNat + x.width then source[i - x.address.toNat]?.getD 0
              else (m.after before).byteAt i
            | none => (m.after before).byteAt i) ∧
      (¬ x.Fits m.size →
        (m.after before).perform x =
          (.error (.outOfBounds ⟨x.address, x.width, m.size⟩), m.after before)) := by
  have hbuffer : 4294967296 ≤ maxBuffer := by decide
  have hwidth : x.width ≤ maxBuffer := by omega
  obtain ⟨hsize, hknown⟩ := knownBy_after m before fun y hy => by
    have := hbefore y hy
    omega
  refine ⟨hsize, fun hfits => ?_, fun hfits => ?_⟩
  · rw [← hsize] at hfits
    rw [← hsize]
    cases hsource : x.source? with
    | none =>
      rw [perform_of_read hwidth hfits hsource, hknown.slice hfits, hsize]
      exact ⟨rfl, fun _ _ => rfl⟩
    | some source =>
      rw [perform_of_write hfits hsource, ← Access.length_source hsource]
      refine ⟨?_, fun i hi => ?_⟩
      · cases x <;> first | rfl | cases hsource
      · show ((m.after before).patch x.address.toNat source).byteAt i = _
        rw [byteAt_patch]
        by_cases hin : x.address.toNat ≤ i ∧ i < x.address.toNat + source.length
        · rw [if_pos ⟨hin.1, hin.2, hi⟩]
          exact (if_pos hin).symm
        · rw [if_neg fun hall => hin ⟨hall.1, hall.2.1⟩]
          exact (if_neg hin).symm
  · rw [← hsize] at hfits ⊢
    exact perform_of_not_fits hwidth hfits

/-- Two stores that overlap and one that would pass the end, before a read over both and a read past the end. -/
theorem perform_after_overlap :
    ∃ m, m = tiny.after [.writeWord32 58 0x44332211, .write 62 [9, 9, 9], .write 61 [0xAA]] ∧
      (m.perform (.readWord32 60)).1 = .ok (.word32 0xAA33) ∧
      m.perform (.readWord32 61) = (.error (.outOfBounds ⟨61, 4, 64⟩), m) := by
  have hbefore : ∀ y ∈ [Access.writeWord32 58 0x44332211, .write 62 [9, 9, 9], .write 61 [0xAA]],
      y.width < 4294967296 := by decide
  obtain ⟨-, hfits, -⟩ := perform_after tiny _ (.readWord32 60) hbefore (by decide)
  obtain ⟨-, -, hpast⟩ := perform_after tiny _ (.readWord32 61) hbefore (by decide)
  refine ⟨_, rfl, ?_, hpast (by decide)⟩
  rw [(hfits (by decide)).1]
  decide +kernel

end DecoderHost.Memory

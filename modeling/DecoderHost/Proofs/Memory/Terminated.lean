import DecoderHost.Proofs.Memory.Patch
import Mathlib.Tactic.ByContra

/-!
# Terminated text

A text lies in a memory as its bytes, none of them zero, and a zero byte after them. Reading walks from an address to
the first zero byte and gives what lies before it. It fails only where no zero byte follows: the address lies outside
the memory, or the walk leaves the memory, or, in a memory that fills the whole address space, the walk comes to the
last address there is. The main statement is `readTerminated_finds`.

The walk is followed through the addresses that it `Visits`. All that is said of it holds of each of these.
-/

namespace DecoderHost.Memory

/-! ## What is to be found -/

/-- A text is at an index: its bytes are there, none of them is zero, and a zero byte follows them. -/
structure HasText (m : Memory) (start : Nat) (bytes : List UInt8) : Prop where
  slice_eq : m.slice start bytes.length = bytes
  nonzero : 0 ∉ bytes
  fits : start + bytes.length < m.size
  terminator : m.byteAt (start + bytes.length) = 0

/-- The first zero byte from an index on. -/
structure FirstZero (m : Memory) (start z : Nat) : Prop where
  le : start ≤ z
  zero : m.get? z = some 0
  first : ∀ i, start ≤ i → i < z → m.get? i ≠ some 0

/-- **What comes of reading a text.** -/
inductive Reads (m : Memory) (start : UInt32) : Except OutOfBounds (List UInt8) → Prop
  | text {z : Nat} (h : m.FirstZero start.toNat z) :
    Reads m start (.ok (m.slice start.toNat (z - start.toNat)))
  | outside (h : m.size ≤ start.toNat) : Reads m start (.error ⟨start, 1, m.size⟩)
  | unterminated (hin : start.toNat < m.size) (hsize : m.size < 4294967296)
    (hnone : ∀ z, start.toNat ≤ z → m.get? z ≠ some 0) :
    Reads m start (.error ⟨UInt32.ofNat m.size, 1, m.size⟩)
  | full (hsize : m.size = 4294967296) (hnone : ∀ z, start.toNat ≤ z → m.get? z ≠ some 0) :
    Reads m start (.error ⟨start, 4294967296 - start.toNat, m.size⟩)

variable {m : Memory} {start cursor : UInt32}

theorem FirstZero.lt_size {i z : Nat} (h : m.FirstZero i z) : z < m.size := (get?_eq_some.mp h.zero).1

theorem FirstZero.unique {i z z' : Nat} (h : m.FirstZero i z) (h' : m.FirstZero i z') : z = z' := by
  by_contra hne
  rcases Nat.lt_or_gt_of_ne hne with hlt | hlt
  · exact h'.first z h.le hlt h.zero
  · exact h.first z' h'.le hlt h'.zero

/-- A text can be read in one way only. -/
theorem Reads.unique {r r' : Except OutOfBounds (List UInt8)} (h : m.Reads start r) (h' : m.Reads start r') :
    r = r' := by
  cases h with
  | text hz =>
    have hlt := hz.lt_size
    cases h' with
    | text hz' => rw [hz.unique hz']
    | outside hout => exact absurd hz.le (by omega)
    | unterminated _ _ hnone => exact absurd hz.zero (hnone _ hz.le)
    | full _ hnone => exact absurd hz.zero (hnone _ hz.le)
  | outside hout =>
    cases h' with
    | text hz' => exact absurd hz'.lt_size (by have := hz'.le; omega)
    | outside _ => rfl
    | unterminated hin _ _ => omega
    | full hsize _ => exact absurd start.toNat_lt (by omega)
  | unterminated hin hsize hnone =>
    cases h' with
    | text hz' => exact absurd hz'.zero (hnone _ hz'.le)
    | outside hout => omega
    | unterminated _ _ _ => rfl
    | full hsize' _ => omega
  | full hsize hnone =>
    cases h' with
    | text hz' => exact absurd hz'.zero (hnone _ hz'.le)
    | outside hout => exact absurd start.toNat_lt (by omega)
    | unterminated _ hsize' _ => omega
    | full _ _ => rfl

/-! ## The walk -/

/-- The addresses to which a walk comes: from one to the next over a byte that is not zero, and never beyond the last
address there is. -/
inductive Visits (m : Memory) (start : UInt32) : UInt32 → Prop
  | start : Visits m start start
  | next {cursor : UInt32} {b : UInt8} (h : Visits m start cursor) (hbyte : m.readByte cursor = .ok b) (hb : b ≠ 0)
    (hlast : cursor.toNat + 1 < 4294967296) : Visits m start (cursor + 1)

theorem toNat_next (h : cursor.toNat + 1 < 4294967296) : (cursor + 1).toNat = cursor.toNat + 1 :=
  toNat_add_ofNat h

/-- A walk has passed bytes of the memory that are not zero. -/
theorem Visits.passed (h : m.Visits start cursor) :
    start.toNat ≤ cursor.toNat ∧ ∀ i, start.toNat ≤ i → i < cursor.toNat → i < m.size ∧ m.get? i ≠ some 0 := by
  induction h with
  | start => exact ⟨Nat.le_refl _, fun i hi hlt => absurd hlt (Nat.not_lt.mpr hi)⟩
  | @next cursor b _ hbyte hb hlast ih =>
    obtain ⟨hle, hpassed⟩ := ih
    obtain ⟨hin, hbyte⟩ := readByte_eq_ok.mp hbyte
    rw [toNat_next hlast]
    refine ⟨by omega, fun i hi hlt => ?_⟩
    by_cases hcursor : i = cursor.toNat
    · subst hcursor
      refine ⟨hin, fun hzero => hb ?_⟩
      rw [← hbyte, (get?_eq_some.mp hzero).2]
    · exact hpassed i hi (by omega)

/-- The length of what a walk has passed is computed without wrapping around. -/
theorem Visits.toNat_sub (h : m.Visits start cursor) : (cursor - start).toNat = cursor.toNat - start.toNat :=
  UInt32.toNat_sub_of_le cursor start (UInt32.le_iff_toNat_le.mpr h.passed.1)

/-- A walk goes on from each address to which it comes. -/
theorem Visits.scan_eq (h : m.Visits start cursor) : m.scan start start = m.scan start cursor := by
  induction h with
  | start => rfl
  | next _ hbyte hb hlast ih =>
    rw [ih, scan, hbyte]
    dsimp only
    rw [if_neg hb, dif_pos hlast]

/-- What comes of a walk that leaves the memory. -/
theorem Visits.reads_of_error {e : OutOfBounds} (h : m.Visits start cursor) (he : m.readByte cursor = .error e) :
    m.Reads start (.error e) := by
  obtain ⟨hle, hpassed⟩ := h.passed
  have hout : m.size ≤ cursor.toNat := by
    by_contra hin
    have hok : m.readByte cursor = .ok (m.byteAt cursor.toNat) := readByte_eq_ok.mpr ⟨by omega, rfl⟩
    simp [hok] at he
  rw [readByte_eq_error (by omega)] at he
  obtain rfl := Except.error.inj he
  by_cases hfirst : m.size ≤ start.toNat
  · -- Nothing can have been passed.
    have hstart : cursor = start := by
      apply UInt32.toNat_inj.mp
      by_contra hne
      have := (hpassed start.toNat (Nat.le_refl _) (by omega)).1
      omega
    subst hstart
    exact .outside hout
  · -- All that was passed is in the memory, so that the walk is just behind it.
    have hend : cursor.toNat = m.size := by
      by_contra hne
      have := (hpassed m.size (by omega) (by omega)).1
      omega
    have hcursor : cursor = UInt32.ofNat m.size := by rw [← hend, UInt32.ofNat_toNat]
    rw [hcursor]
    refine .unterminated (by omega) (hend ▸ cursor.toNat_lt) fun z hz hzero => ?_
    exact (hpassed z hz (by have := (get?_eq_some.mp hzero).1; omega)).2 hzero

/-- What a walk comes to from an address that it visits. -/
theorem Visits.reads (h : m.Visits start cursor) : m.Reads start (m.scan start cursor) := by
  fun_induction scan m start cursor with
  | case1 cursor e he => exact h.reads_of_error he
  | case2 cursor hbyte =>
    obtain ⟨hin, hzero⟩ := readByte_eq_ok.mp hbyte
    obtain ⟨hle, hpassed⟩ := h.passed
    have hread : m.read start (cursor - start).toNat =
        .ok (m.slice start.toNat (cursor.toNat - start.toNat)) := by
      rw [h.toNat_sub]
      exact read_eq_ok.mpr ⟨by omega, rfl⟩
    rw [hread]
    exact .text ⟨hle, get?_eq_some.mpr ⟨hin, hzero⟩, fun i hi hlt => (hpassed i hi hlt).2⟩
  | case3 cursor b hbyte hb hlast ih => exact ih (h.next hbyte hb hlast)
  | case4 cursor b hbyte hb hlast =>
    -- The walk is at the last address there is, and the memory reaches that far.
    obtain ⟨hin, hbyte⟩ := readByte_eq_ok.mp hbyte
    obtain ⟨hle, hpassed⟩ := h.passed
    have hcursor : cursor.toNat = 4294967295 := by have := cursor.toNat_lt; omega
    have hsize : m.size = 4294967296 := by have := m.size_le; simp only [size] at *; omega
    rw [h.toNat_sub, hcursor, show 4294967295 - start.toNat + 1 = 4294967296 - start.toNat by omega]
    refine .full hsize fun z hz hzero => ?_
    obtain ⟨hlt, hz0⟩ := get?_eq_some.mp hzero
    by_cases hlastByte : z = cursor.toNat
    · exact hb (by rw [← hbyte, ← hlastByte, hz0])
    · exact (hpassed z hz (by omega)).2 hzero

/-- What reading a text gives is what comes of reading it. -/
theorem readTerminated_eq_iff {r : Except OutOfBounds (List UInt8)} :
    m.readTerminated start = r ↔ m.Reads start r := by
  have hreads : m.Reads start (m.readTerminated start) := Visits.start.reads
  exact ⟨fun h => h ▸ hreads, fun h => hreads.unique h⟩

/-! ## What is found -/

theorem FirstZero.hasText {i z : Nat} (h : m.FirstZero i z) : m.HasText i (m.slice i (z - i)) where
  slice_eq := by rw [length_slice]
  nonzero := by
    intro hmem
    obtain ⟨j, hj, hbyte⟩ := List.getElem_of_mem hmem
    rw [length_slice] at hj
    rw [getElem_slice] at hbyte
    have hlt := h.lt_size
    exact h.first (i + j) (by omega) (by omega) (get?_eq_some.mpr ⟨by omega, hbyte⟩)
  fits := by
    have hlt := h.lt_size
    have hle := h.le
    rw [length_slice]
    omega
  terminator := by
    rw [length_slice, Nat.add_sub_of_le h.le]
    exact (get?_eq_some.mp h.zero).2

theorem HasText.firstZero {i : Nat} {bytes : List UInt8} (h : m.HasText i bytes) :
    m.FirstZero i (i + bytes.length) where
  le := Nat.le_add_right ..
  zero := get?_eq_some.mpr ⟨h.fits, h.terminator⟩
  first := by
    intro j hj hlt hzero
    obtain ⟨k, rfl⟩ := Nat.exists_eq_add_of_le hj
    have hk : k < (m.slice i bytes.length).length := by
      rw [length_slice]
      omega
    have hbyte : (m.slice i bytes.length)[k] = 0 := by
      rw [getElem_slice]
      exact (get?_eq_some.mp hzero).2
    have hmem := List.getElem_mem hk
    rw [hbyte, h.slice_eq] at hmem
    exact h.nonzero hmem

/-- Where bytes lie with a zero byte behind them, there is a text, whatever comes after that. -/
theorem hasText_of_slice {i : Nat} {bytes more : List UInt8} (hnonzero : 0 ∉ bytes)
    (hfits : i + (bytes ++ 0 :: more).length ≤ m.size)
    (hslice : m.slice i (bytes ++ 0 :: more).length = bytes ++ 0 :: more) : m.HasText i bytes := by
  have hlength : (bytes ++ 0 :: more).length = bytes.length + (more.length + 1) := by simp
  rw [hlength, Memory.slice_add] at hslice
  obtain ⟨hbytes, hrest⟩ := List.append_inj hslice (length_slice ..)
  rw [Memory.slice_succ, List.cons.injEq] at hrest
  exact ⟨hbytes, hnonzero, by omega, hrest.1⟩

/-- What is read up to the first zero byte is exactly the text that is there. -/
theorem readTerminated_eq_ok {bytes : List UInt8} :
    m.readTerminated start = .ok bytes ↔ m.HasText start.toNat bytes := by
  rw [readTerminated_eq_iff]
  constructor
  · intro h
    cases h with
    | text hz => exact hz.hasText
  · intro h
    have htext := Reads.text h.firstZero
    rwa [Nat.add_sub_cancel_left, h.slice_eq] at htext

/-- **A walk is safe at an address.** It goes on from there as it began, nothing that is computed there wraps around,
and if a text ends there, then the text is in the memory. -/
structure SafeAt (m : Memory) (start cursor : UInt32) : Prop where
  scan_eq : m.readTerminated start = m.scan start cursor
  le : start ≤ cursor
  length_le : (cursor - start).toNat + 1 ≤ 4294967296
  next : cursor.toNat + 1 < 4294967296 → (cursor + 1).toNat = cursor.toNat + 1
  read : m.readByte cursor = .ok 0 → ∃ bytes, m.read start (cursor - start).toNat = .ok bytes

theorem Visits.safeAt (h : m.Visits start cursor) : m.SafeAt start cursor where
  scan_eq := h.scan_eq
  le := UInt32.le_iff_toNat_le.mpr h.passed.1
  length_le := by
    have hlt := cursor.toNat_lt
    rw [h.toNat_sub]
    omega
  next := toNat_next
  read hbyte := by
    have hin := (readByte_eq_ok.mp hbyte).1
    have hle := h.passed.1
    exact ⟨_, read_eq_ok.mpr ⟨by rw [h.toNat_sub]; omega, rfl⟩⟩

/-- **Reading a text finds its end.** What is read are the bytes up to the first zero byte, and something is read
whenever there is a zero byte. Where there is none, the fault tells where the walk came to its end: at once, if it began
outside the memory; at the end of the memory; or, if no address is left there, where it began. Nothing wraps around on
the way. -/
theorem readTerminated_finds (m : Memory) (start : UInt32) :
    (∀ bytes, m.readTerminated start = .ok bytes ↔
      ∃ z, m.FirstZero start.toNat z ∧ bytes = m.slice start.toNat (z - start.toNat)) ∧
    (∀ bytes, m.readTerminated start = .ok bytes → 0 ∉ bytes) ∧
    ((∃ bytes, m.readTerminated start = .ok bytes) ↔ ∃ z, start.toNat ≤ z ∧ m.get? z = some 0) ∧
    (m.size ≤ start.toNat → m.readTerminated start = .error ⟨start, 1, m.size⟩) ∧
    (start.toNat < m.size → m.size < 4294967296 → (¬ ∃ z, start.toNat ≤ z ∧ m.get? z = some 0) →
      m.readTerminated start = .error ⟨UInt32.ofNat m.size, 1, m.size⟩) ∧
    (m.size = 4294967296 → (¬ ∃ z, start.toNat ≤ z ∧ m.get? z = some 0) →
      m.readTerminated start = .error ⟨start, 4294967296 - start.toNat, m.size⟩) ∧
    ∀ cursor, m.Visits start cursor → m.SafeAt start cursor := by
  refine ⟨fun bytes => ?_, fun bytes h => (readTerminated_eq_ok.mp h).nonzero, ?_,
    fun hout => readTerminated_eq_iff.mpr (.outside hout), fun hin hsize hnone => ?_, fun hsize hnone => ?_,
    fun _ h => h.safeAt⟩
  · rw [readTerminated_eq_iff]
    constructor
    · intro h
      cases h with
      | text hz => exact ⟨_, hz, rfl⟩
    · rintro ⟨z, hz, rfl⟩
      exact .text hz
  · constructor
    · rintro ⟨bytes, h⟩
      have hzero := (readTerminated_eq_ok.mp h).firstZero
      exact ⟨_, hzero.le, hzero.zero⟩
    · rintro ⟨z, hz, hzero⟩
      -- Each of the faults says that there is no zero byte.
      generalize hr : m.readTerminated start = r
      cases readTerminated_eq_iff.mp hr with
      | text _ => exact ⟨_, rfl⟩
      | outside hout => exact absurd (get?_eq_some.mp hzero).1 (by omega)
      | unterminated _ _ hnone => exact absurd hzero (hnone z hz)
      | full _ hnone => exact absurd hzero (hnone z hz)
  · exact readTerminated_eq_iff.mpr (.unterminated hin hsize fun z hz hzero => hnone ⟨z, hz, hzero⟩)
  · exact readTerminated_eq_iff.mpr (.full hsize fun z hz hzero => hnone ⟨z, hz, hzero⟩)

/-- A memory that fills the address space, without a zero byte in it. -/
noncomputable def packed : Memory where
  bytes := ⟨Array.replicate 4294967296 1⟩
  size_le := by simp [ByteArray.size]

theorem size_packed : packed.size = 4294967296 := by
  simp [packed, size, ByteArray.size]

theorem get?_packed (i : Nat) : packed.get? i ≠ some 0 := by
  rw [get?, getElem?_data, packed, Array.getElem?_replicate]
  split <;> simp

/-- A walk through all that memory ends at its last byte, and tells where it began. -/
theorem packed_finds : packed.size = 4294967296 ∧ packed.readTerminated 5 = .error ⟨5, 4294967291, 4294967296⟩ := by
  obtain ⟨-, -, -, -, -, hfull, -⟩ := readTerminated_finds packed 5
  refine ⟨size_packed, ?_⟩
  rw [hfull size_packed fun ⟨z, _, hzero⟩ => get?_packed z hzero, size_packed]
  rfl

end DecoderHost.Memory

import DecoderHost.Proofs.Guest.Ending
import DecoderHost.Proofs.Guest.Outcome
import DecoderHost.Proofs.Session.Protocol
import DecoderHost.Proofs.Session.Release

/-!
# Scratch memory at any address

A guest may give a decode scratch memory at any address. The blocks are looked at when the cursor is seeded, one slot
after another: if one of them does not lie inside the memory, the decode breaks off with a panic that tells the first
access that was refused, and an error is recorded; else all slots are written and the decode goes on from there. This
holds for a cursor whose slots have addresses. The addresses of the slots are computed before anything is looked at,
without a check, so that beyond the last cursor with slots the decode breaks off with an overflow and nothing is
recorded. The main statement is `disassemble_seeds`.
-/

namespace DecoderHost

variable {σ α : Type}

/-! ## The first refused access -/

namespace Memory

/-- The first of some accesses that does not lie inside the memory. -/
def refused? (m : Memory) (accesses : List (UInt32 × Nat)) : Option OutOfBounds :=
  (accesses.find? fun access => !m.covers access.1 access.2).map fun access => ⟨access.1, access.2, m.size⟩

theorem refused?_patch (m : Memory) (start : Nat) (source : List UInt8) (accesses : List (UInt32 × Nat)) :
    (m.patch start source).refused? accesses = m.refused? accesses := by
  simp only [refused?, covers, size_patch]

theorem refused?_eq_none {m : Memory} {accesses : List (UInt32 × Nat)} :
    m.refused? accesses = none ↔ ∀ access ∈ accesses, access.1.toNat + access.2 ≤ m.size := by
  simp [refused?, covers]

/-- Of writes one after another the first that does not lie inside the memory is refused, and none if there is none. -/
theorem editAll_writes (writes : List (UInt32 × List UInt8)) (m : Memory) :
    (editAll (writes.map fun w m => m.write w.1 w.2) m).1 =
      match m.refused? (writes.map fun w => (w.1, w.2.length)) with
      | none => .ok ()
      | some e => .error e := by
  induction writes generalizing m with
  | nil => rfl
  | cons w rest ih =>
    by_cases hcovers : m.covers w.1 w.2.length
    · have hwrite : m.write w.1 w.2 = .ok (m.patch w.1.toNat w.2) := by rw [write, if_pos hcovers]
      have hrefused : m.refused? ((w.1, w.2.length) :: rest.map fun w => (w.1, w.2.length)) =
          m.refused? (rest.map fun w => (w.1, w.2.length)) := by
        rw [refused?, List.find?_cons_of_neg (by simp [hcovers]), refused?]
      simp only [List.map_cons, editAll, hwrite, ih, refused?_patch, hrefused]
    · have hwrite : m.write w.1 w.2 = .error ⟨w.1, w.2.length, m.size⟩ := by rw [write, if_neg hcovers]
      have hrefused : m.refused? ((w.1, w.2.length) :: rest.map fun w => (w.1, w.2.length)) =
          some ⟨w.1, w.2.length, m.size⟩ := by
        rw [refused?, List.find?_cons_of_pos (by simpa using hcovers)]
        rfl
      simp only [List.map_cons, editAll, hwrite, hrefused]

end Memory

namespace Session

/-- The accesses with which a cursor is seeded, in order. -/
def seedings (input : UInt32) (code : List UInt8) (cursor : Cursor) : List (UInt32 × Nat) :=
  [(input, code.length), (cursor.codeSlot, 4), (cursor.sizeSlot, 4), (cursor.offsetSlot, 8)]

theorem seed_outcome (m : Memory) (input : UInt32) (code : List UInt8) (cursor : Cursor) :
    (seed m input code cursor).1 = match m.refused? (seedings input code cursor) with
      | none => .ok ()
      | some e => .error e := by
  have hwrites := Memory.editAll_writes [(input, code), (cursor.codeSlot, Word.littleEndian 4 input.toNat),
    (cursor.sizeSlot, Word.littleEndian 4 (UInt32.ofNat code.length).toNat),
    (cursor.offsetSlot, Word.littleEndian 8 (0 : UInt64).toNat)] m
  simp only [List.map_cons, List.map_nil, Word.length_littleEndian] at hwrites
  exact hwrites

/-- The wording of a refused access begins in the same way whatever was refused. -/
theorem exists_message (e : OutOfBounds) : ∃ rest, (Panic.invalidDatum .scratchBuffer e).message =
    "decoder returned an invalid scratch buffer: out of bounds access" ++ rest := by
  have hopening : "decoder returned an invalid " ++ "scratch buffer" ++ ": " ++ "out of bounds access: " =
      "decoder returned an invalid scratch buffer: out of bounds access" ++ ": " := by decide
  unfold Panic.message OutOfBounds.message GuestDatum.name
  dsimp only [toString]
  -- The literals at the beginning are put together, and what comes after them is split off again.
  simp only [← String.append_assoc, hopening]
  simp only [String.append_assoc]
  exact ⟨_, rfl⟩

/-! ## Breaking off -/

variable {g : Guest σ}

/-- A computation breaks off with a panic. These are the events up to then; after them there are only warnings of
releases, and only a release that panics in its turn puts its own panic in the place of the first. -/
def BreaksOff (g : Guest σ) (held : List Allocation) (m : Host σ α) (s : Scene σ) (p : Panic)
    (events : Array Event) : Prop :=
  ∃ q t warnings, m.run s = (.error (.panic q), t) ∧ t.events.toList = events.toList ++ warnings ∧
    (∀ w ∈ warnings, ∃ a ∈ held, ∃ e, w = .scratchNotReleased a e) ∧
    (q = p ∨ ∃ a ∈ held, ∃ u v, (release g a).run u = (.error (.panic q), v))

/-- A release ends without a panic, perhaps with a warning, or with one and nothing recorded. -/
theorem release_ends (g : Guest σ) (a : Allocation) (s : Scene σ) :
    (∃ t warnings, (release g a).run s = (.ok (), t) ∧ t.events.toList = s.events.toList ++ warnings ∧
      ∀ w ∈ warnings, ∃ e, w = .scratchNotReleased a e) ∨
    ∃ p t, (release g a).run s = (.error (.panic p), t) ∧ t.events = s.events := by
  obtain ⟨e, he⟩ := g.exists_ends a.releaseFunction a.releaseArguments s.store
  have htry := he.run_tryCall s.events
  rw [run_release, htry, CallEnd.tried]
  rcases e.answer with p | (error | number)
  · exact .inr ⟨p, _, rfl, rfl⟩
  · refine .inl ⟨_, [.scratchNotReleased a error], rfl, Array.toList_push .., ?_⟩
    simp
  · exact .inl ⟨_, [], rfl, (List.append_nil _).symm, by simp⟩

theorem BreaksOff.of_run_eq {held : List Allocation} {m : Host σ α} {s t : Scene σ} {p : Panic}
    (h : m.run s = (.error (.panic p), t)) : BreaksOff g held m s p t.events :=
  ⟨p, t, [], h, (List.append_nil _).symm, by simp, .inl rfl⟩

/-- What breaks off while an allocation is held breaks off when it was released. -/
theorem BreaksOff.withAllocation {held : List Allocation} {a : Allocation} (ha : a ∈ held) {body : Host σ α}
    {s : Scene σ} {p : Panic} {events : Array Event} (h : BreaksOff g held body s p events) :
    BreaksOff g held (withAllocation g a body) s p events := by
  obtain ⟨q, t, warnings, hrun, hevents, hwarnings, hpanic⟩ := h
  rcases release_ends g a t with ⟨u, more, hrelease, hmore, hall⟩ | ⟨r, u, hrelease, hsame⟩
  · refine ⟨q, u, warnings ++ more, ?_, ?_, ?_, hpanic⟩
    · rw [Session.withAllocation, Host.run_ensuring, hrun]
      simp only [hrelease]
    · rw [hmore, hevents, List.append_assoc]
    · intro w hw
      rcases List.mem_append.mp hw with hw | hw
      · exact hwarnings w hw
      · exact ⟨a, ha, hall w hw⟩
  · refine ⟨r, u, warnings, ?_, hsame ▸ hevents, hwarnings, .inr ⟨a, ha, t, u, hrelease⟩⟩
    rw [Session.withAllocation, Host.run_ensuring, hrun]
    simp only [hrelease]

/-- If no release panics, what breaks off ends with its own panic. -/
theorem BreaksOff.outcome_eq {held : List Allocation} {m : Host σ α} {s : Scene σ} {p : Panic} {events : Array Event}
    (h : BreaksOff g held m s p events) (hreleases : ∀ a ∈ held, ∀ u, ∃ v, (release g a).run u = (.ok (), v)) :
    (m.run s).1 = .error (.panic p) := by
  obtain ⟨q, t, warnings, hrun, -, -, rfl | ⟨a, ha, u, v, hpanic⟩⟩ := h
  · rw [hrun]
  · obtain ⟨w, hok⟩ := hreleases a ha u
    simp [hok] at hpanic

/-- What holds an allocation depends on its use only through the run of that. -/
theorem run_withAllocation_congr {a : Allocation} {body body' : Host σ α} {s t : Scene σ}
    (h : body.run s = body'.run t) : (withAllocation g a body).run s = (withAllocation g a body').run t := by
  rw [withAllocation, Host.run_ensuring, h, withAllocation, Host.run_ensuring]

/-! ## Scratch memory -/

/-- A guest gives a decode its scratch memory: three addresses, none of them null, and the stores after each was given.
The blocks may be anywhere. -/
structure Handed (g : Guest σ) (handle : UInt32) (code : List UInt8) (s : Store σ) where
  record : UInt32
  cursor : UInt32
  input : UInt32
  afterRecord : Store σ
  afterCursor : Store σ
  afterInput : Store σ
  free : g.hasFunction "free"
  csFree : g.hasFunction "cs_free"
  takeRecord : g.GivesWord "cs_malloc" [handle.toUInt64] s record afterRecord
  takeCursor : g.GivesWord "malloc" [16] afterRecord cursor afterCursor
  takeInput : g.GivesWord "malloc" [UInt64.ofNat code.length] afterCursor input afterInput
  record_ne : record ≠ 0
  cursor_ne : cursor ≠ 0
  input_ne : code ≠ [] → input ≠ 0
  length_lt : code.length < 4294967296

/-- The rest of a decode when the cursor has been seeded. -/
def decodeSeeded (g : Guest σ) (handle : UInt32) (steps : Nat) (record : UInt32) (cursor : Cursor) :
    Host σ Disassembly := do
  let decoded ← decodeAll g handle cursor record steps #[]
  let remaining ← Host.inspect .cursor fun m => m.readWord32 cursor.sizeSlot
  return ⟨decoded.toList, remaining.toNat⟩

namespace Handed

variable {handle : UInt32} {code : List UInt8} {s : Store σ} (x : Handed g handle code s) {steps : Nat}
  {events : Array Event}

/-- The cursor, with the addresses of its slots. -/
def slots : Cursor := ⟨x.cursor, x.cursor + 4, x.cursor + 8⟩

/-- Both blocks lie inside the memory. -/
def Inside : Prop :=
  x.cursor.toNat + 16 ≤ x.afterInput.memory.size ∧ x.input.toNat + code.length ≤ x.afterInput.memory.size

/-- What is to be given back. -/
def held : List Allocation := [.record x.record, .block x.cursor, .block x.input]

/-- Functions that take integers give it back without a panic. -/
theorem release_held (hfree : g.TakesIntegers "free" 1) (hcsFree : g.TakesIntegers "cs_free" 2) :
    ∀ a ∈ x.held, ∀ u, ∃ v, (release g a).run u = (.ok (), v) := by
  intro a ha u
  simp only [held, List.mem_cons, List.not_mem_nil, or_false] at ha
  rcases ha with rfl | rfl | rfl
  · exact release_ok hcsFree x.csFree u
  · exact release_ok hfree x.free u
  · exact release_ok hfree x.free u

/-- A computation with the scratch memory in place, which is given back afterwards. -/
def holding (body : Host σ α) : Host σ α :=
  withAllocation g (.record x.record) (withAllocation g (.block x.cursor) (withAllocation g (.block x.input) body))

/-- A decode takes its scratch memory, and goes on with that in place. -/
theorem run_disassemble (steps : Nat) (events : Array Event) :
    (disassemble g handle steps code).run ⟨s, events⟩ =
      (x.holding (decodeIn g handle steps code x.record x.cursor x.input)).run ⟨x.afterInput, events⟩ := by
  have hrecord : (g.csMalloc handle).run ⟨s, events⟩ = (.ok x.record, ⟨x.afterRecord, events⟩) :=
    x.takeRecord.run_resolved x.csFree events
  have hcursor : (g.malloc cursorSize).run ⟨x.afterRecord, events⟩ = (.ok x.cursor, ⟨x.afterCursor, events⟩) :=
    x.takeCursor.run_resolved x.free events
  have hinput : (g.malloc code.length).run ⟨x.afterCursor, events⟩ = (.ok x.input, ⟨x.afterInput, events⟩) :=
    x.takeInput.run_resolved x.free events
  have hempty : ¬ (x.input = 0 ∧ code.length ≠ 0) := fun h => x.input_ne (by simpa using h.2) h.1
  rw [disassemble, if_neg (Nat.not_le.mpr x.length_lt), withRecord, Host.run_bind_of_ok hrecord, if_neg x.record_ne]
  apply run_withAllocation_congr
  rw [withBlock, Host.run_bind_of_ok hcursor, if_neg fun h => x.cursor_ne h.1]
  apply run_withAllocation_congr
  rw [withBlock, Host.run_bind_of_ok hinput, if_neg hempty]

/-! ## Seeding -/

/-- The blocks lie inside the memory exactly if no access is refused, unless the addresses of the slots wrap around. -/
theorem inside_iff (hslots : x.cursor.toNat + 8 < 4294967296) :
    x.Inside ↔ x.afterInput.memory.refused? (seedings x.input code x.slots) = none := by
  obtain ⟨hsizeSlot, hoffsetSlot⟩ := slots_toNat hslots
  rw [Memory.refused?_eq_none]
  simp only [seedings, slots, List.forall_mem_cons, hsizeSlot, hoffsetSlot, Inside]
  constructor
  · rintro ⟨hcursor, hinput⟩
    refine ⟨hinput, by omega, by omega, by omega, by simp⟩
  · rintro ⟨hinput, -, -, hlast, -⟩
    exact ⟨by omega, hinput⟩

theorem decodeIn_eq (hslots : x.cursor.toNat + 8 < 4294967296) (steps : Nat) :
    decodeIn g handle steps code x.record x.cursor x.input = (do
      Host.alter .scratchBuffer fun m => seed m x.input code x.slots
      decodeSeeded g handle steps x.record x.slots) := by
  rw [decodeIn, Cursor.at?, if_pos hslots]
  rfl

/-- Blocks that lie inside the memory are seeded, and the decode goes on. -/
theorem run_of_inside (hslots : x.cursor.toNat + 8 < 4294967296) (hinside : x.Inside) (steps : Nat)
    (events : Array Event) :
    ∃ m, seed x.afterInput.memory x.input code x.slots = (.ok (), m) ∧
      (disassemble g handle steps code).run ⟨s, events⟩ =
        (x.holding (decodeSeeded g handle steps x.record x.slots)).run ⟨{ x.afterInput with memory := m }, events⟩ := by
  obtain ⟨m, hseed⟩ := exists_seed hinside.1 hinside.2
  refine ⟨m, hseed, ?_⟩
  rw [x.run_disassemble, x.decodeIn_eq hslots]
  apply run_withAllocation_congr
  apply run_withAllocation_congr
  apply run_withAllocation_congr
  have hseed : seed x.afterInput.memory x.input code x.slots = (.ok (), m) := hseed
  rw [Host.run_bind_of_ok (Host.alter_eq_ok.mpr ⟨by rw [hseed], rfl⟩), hseed]

theorem breaksOff {p : Panic} {t : Scene σ}
    (h : (decodeIn g handle steps code x.record x.cursor x.input).run ⟨x.afterInput, events⟩ =
      (.error (.panic p), t)) :
    BreaksOff g x.held (disassemble g handle steps code) ⟨s, events⟩ p t.events := by
  have hbody : BreaksOff g x.held (decodeIn g handle steps code x.record x.cursor x.input) ⟨x.afterInput, events⟩ p
      t.events := .of_run_eq h
  have hheld := ((hbody.withAllocation (a := .block x.input) (by simp [held])).withAllocation
    (a := .block x.cursor) (by simp [held])).withAllocation (a := .record x.record) (by simp [held])
  unfold BreaksOff
  rw [x.run_disassemble]
  exact hheld

/-- A block that does not lie inside the memory is refused, and the decode breaks off. -/
theorem breaksOff_of_refused (hslots : x.cursor.toNat + 8 < 4294967296) {e : OutOfBounds}
    (he : x.afterInput.memory.refused? (seedings x.input code x.slots) = some e) (steps : Nat) (events : Array Event) :
    BreaksOff g x.held (disassemble g handle steps code) ⟨s, events⟩ (.invalidDatum .scratchBuffer e)
      (events.push (.invalidDatum .scratchBuffer e)) := by
  have hseed : (seed x.afterInput.memory x.input code x.slots).1 = .error e := by rw [seed_outcome, he]
  have hrun : (decodeIn g handle steps code x.record x.cursor x.input).run ⟨x.afterInput, events⟩ =
      (.error (.panic (.invalidDatum .scratchBuffer e)),
        ⟨{ x.afterInput with memory := (seed x.afterInput.memory x.input code x.slots).2 },
          events.push (.invalidDatum .scratchBuffer e)⟩) := by
    rw [x.decodeIn_eq hslots]
    apply Host.run_bind_of_error
    rw [Host.run_alter, hseed]
    rfl
  exact x.breaksOff hrun

/-- A cursor without slots is not even looked at. -/
theorem breaksOff_of_overflow (hslots : 4294967296 ≤ x.cursor.toNat + 8) (steps : Nat) (events : Array Event) :
    BreaksOff g x.held (disassemble g handle steps code) ⟨s, events⟩ .addressOverflow events := by
  have hrun : (decodeIn g handle steps code x.record x.cursor x.input).run ⟨x.afterInput, events⟩ =
      (.error (.panic .addressOverflow), ⟨x.afterInput, events⟩) := by
    rw [decodeIn, Cursor.at?, if_neg (Nat.not_lt.mpr hslots)]
    rfl
  exact x.breaksOff hrun

/-- **The cursor is seeded.** Its slots hold the address of the input, the length of it, and the offset zero; the input
is there unless the cursor lies in the way. -/
structure Seeded (m : Memory) : Prop where
  seed_eq : seed x.afterInput.memory x.input code x.slots = (.ok (), m)
  codeSlot : m.readWord32 x.cursor = .ok x.input
  sizeSlot : m.readWord32 (x.cursor + 4) = .ok (UInt32.ofNat code.length)
  offsetSlot : m.readWord64 (x.cursor + 8) = .ok 0
  input : x.input.toNat + code.length ≤ x.cursor.toNat ∨ x.cursor.toNat + 16 ≤ x.input.toNat →
    m.read x.input code.length = .ok code

/-- **A bad scratch pointer is diagnosed.** The decode breaks off with a panic that tells the first access that was
refused, once that is recorded as an error. It ends with this panic unless the guest makes the releases panic too. -/
structure Diagnosed (steps : Nat) (events : Array Event) (e : OutOfBounds) : Prop where
  first : x.afterInput.memory.refused? (seedings x.input code x.slots) = some e
  breaksOff : BreaksOff g x.held (disassemble g handle steps code) ⟨s, events⟩ (.invalidDatum .scratchBuffer e)
    (events.push (.invalidDatum .scratchBuffer e))
  outcome : g.TakesIntegers "free" 1 → g.TakesIntegers "cs_free" 2 →
    ((disassemble g handle steps code).run ⟨s, events⟩).1 = .error (.panic (.invalidDatum .scratchBuffer e))
  message : ∃ rest, (Panic.invalidDatum .scratchBuffer e).message =
    "decoder returned an invalid scratch buffer: out of bounds access" ++ rest
  level : (Event.invalidDatum .scratchBuffer e).level = "ERROR"

end Handed

/-- **Seeding the cursor.** Wherever a guest puts the scratch memory, a cursor whose slots have addresses is either
seeded, and the decode goes on from there, or diagnosed: the first if both blocks lie inside the memory, the second if
not. A cursor whose last slot lies beyond the last address makes the decode break off with an overflow. -/
theorem disassemble_seeds {handle : UInt32} {code : List UInt8} {s : Store σ} (x : Handed g handle code s)
    (steps : Nat) (events : Array Event) :
    (x.cursor.toNat + 8 < 4294967296 →
      (x.Inside ∧ ∃ m, x.Seeded m ∧ (disassemble g handle steps code).run ⟨s, events⟩ =
        (x.holding (decodeSeeded g handle steps x.record x.slots)).run ⟨{ x.afterInput with memory := m }, events⟩) ∨
      (¬ x.Inside ∧ ∃ e, x.Diagnosed steps events e)) ∧
    (4294967296 ≤ x.cursor.toNat + 8 →
      ¬ x.Inside ∧ BreaksOff g x.held (disassemble g handle steps code) ⟨s, events⟩ .addressOverflow events) := by
  constructor
  · intro hslots
    by_cases hinside : x.Inside
    · obtain ⟨m, hseed, hrun⟩ := x.run_of_inside hslots hinside steps events
      obtain ⟨hcodeSlot, hsizeSlot, hoffsetSlot, hinput⟩ := seed_eq_ok hslots hseed
      exact .inl ⟨hinside, m, ⟨hseed, hcodeSlot, hsizeSlot, hoffsetSlot, hinput⟩, hrun⟩
    · cases hfirst : x.afterInput.memory.refused? (seedings x.input code x.slots) with
      | none => exact absurd ((x.inside_iff hslots).mpr hfirst) hinside
      | some e =>
        have hbreaks := x.breaksOff_of_refused hslots hfirst steps events
        exact .inr ⟨hinside, e, hfirst, hbreaks, fun hfree hcsFree => hbreaks.outcome_eq (x.release_held hfree hcsFree),
          exists_message e, rfl⟩
  · intro hslots
    have hsize := x.afterInput.memory.size_le
    refine ⟨fun hinside => ?_, x.breaksOff_of_overflow hslots steps events⟩
    have hcursor := hinside.1
    simp only [Memory.size] at hcursor
    omega

/-- A store with a small memory and nothing else. -/
def bareStore : Store Unit := ⟨Memory.tiny, 0, (), {}⟩

/-- A guest that puts the cursor at a given address, and finds no instruction in any input. -/
def stray (cursor : UInt32) : Guest Unit where
  exports := [("free", .function ⟨[.i32], []⟩), ("cs_free", .function ⟨[.i32, .i64], [.i32]⟩),
    ("malloc", .function ⟨[.i32], [.i32]⟩), ("cs_malloc", .function ⟨[.i32], [.i32]⟩),
    ("cs_disasm_iter", .function ⟨[.i32, .i32, .i32, .i32, .i32], [.i32]⟩)]
  initialPages := 0
  start _ surroundings := .ok (bareStore.within surroundings)
  invoke name arguments := fun s =>
    match name, arguments with
    | "cs_malloc", _ => (.ok [.i32 4], s)
    | "malloc", [.i32 16] => (.ok [.i32 cursor], s)
    | "malloc", _ => (.ok [.i32 32], s)
    | _, _ => (.ok [.i32 0], s)

/-- The scratch memory that the guest gives. -/
def strayHanded (cursor : UInt32) (h : cursor ≠ 0) : Handed (stray cursor) 7 [0x90] bareStore where
  record := 4
  cursor := cursor
  input := 32
  afterRecord := bareStore
  afterCursor := bareStore
  afterInput := bareStore
  free := rfl
  csFree := rfl
  takeRecord := ⟨4, ⟨_, _, rfl, rfl, rfl⟩, rfl⟩
  takeCursor := ⟨cursor.toUInt64, ⟨_, _, rfl, rfl, rfl⟩, UInt32.toUInt32_toUInt64 cursor⟩
  takeInput := ⟨32, ⟨_, _, rfl, rfl, rfl⟩, rfl⟩
  record_ne := by decide
  cursor_ne := h
  input_ne _ := by decide
  length_lt := by decide

/-- The last cursor whose slots have addresses is diagnosed. -/
theorem stray_diagnosed : ∃ e, (strayHanded 0xFFFFFFF7 (by decide)).Diagnosed 2 #[] e ∧ e = ⟨0xFFFFFFF7, 4, 64⟩ := by
  rcases (disassemble_seeds (strayHanded 0xFFFFFFF7 (by decide)) 2 #[]).1 (by decide) with
    ⟨hinside, -⟩ | ⟨-, e, hdiagnosed⟩
  · exact absurd hinside.1 (by decide)
  · have hfirst : some (⟨0xFFFFFFF7, 4, 64⟩ : OutOfBounds) = some e := hdiagnosed.first
    exact ⟨e, hdiagnosed, (Option.some.inj hfirst).symm⟩

/-- The next one is not, though it does not lie inside the memory either: adding to its address overflows, and nothing
is recorded. -/
theorem stray_overflows :
    ¬ ((strayHanded 0xFFFFFFF8 (by decide)).Inside ∨
      ∃ e, (strayHanded 0xFFFFFFF8 (by decide)).Diagnosed 2 #[] e) ∧
    ((disassemble (stray 0xFFFFFFF8) 7 2 [0x90]).run { store := bareStore }).1 = .error (.panic .addressOverflow) ∧
    ((disassemble (stray 0xFFFFFFF8) 7 2 [0x90]).run { store := bareStore }).2.events = #[] := by
  have hrun : (disassemble (stray 0xFFFFFFF8) 7 2 [0x90]).run { store := bareStore } =
      (.error (.panic .addressOverflow), { store := bareStore }) := by with_unfolding_all rfl
  refine ⟨?_, by rw [hrun], by rw [hrun]⟩
  rintro (hinside | ⟨e, hdiagnosed⟩)
  · exact absurd hinside.1 (by decide)
  · obtain ⟨q, t, warnings, hbroken, hevents, -, -⟩ := hdiagnosed.breaksOff
    rw [hrun] at hbroken
    obtain rfl : ({ store := bareStore } : Scene Unit) = t := (Prod.mk.inj hbroken).2
    simp at hevents

end Session

end DecoderHost

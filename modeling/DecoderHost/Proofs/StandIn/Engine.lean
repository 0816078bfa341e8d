import DecoderHost.Proofs.StandIn.Open

/-!
# Engines on the stand-in

A disassembler that is opened on the stand-in decodes every byte string as the toy encoding says, whatever
the pool it was opened in. Before and after each decode its guest is idle.
-/

namespace DecoderHost.StandIn

/-- What decoding a byte string is to be answered with. -/
def expected (dialect : Dialect) (code : List UInt8) : Reply Disassembly where
  outcome := (answer dialect code).mapError .stopped
  events := complaints code

variable {d : Decoder Globals} {arch : Arch} {mode : Mode} {pool : Pool}

theorem freshStore_eq (hd : d.guest = guest) (around : Surroundings) :
    ∃ s, d.freshStore around = (.ok s, around) ∧ Unopened s ∧ s.surroundings = around := by
  refine ⟨_, ?_, unopened_start (min d.engine.config.pageLimit Memory.maxPages) around, rfl⟩
  unfold Decoder.freshStore
  rw [hd]
  rfl

/-- An idle engine: the session of an open disassembler between requests. -/
def IdleFor (arch : Arch) (session : Session Globals) : Prop :=
  session.handle = handleOf arch ∧ Idle session.store

/-- For a target that the stand-in accepts, an engine is opened wherever the pool has room. -/
theorem open_of_accepts (hd : d.guest = guest) (harch : Accepts arch mode) (hroom : pool.hasRoom) :
    ∃ session, IdleFor arch session ∧
      Disassembler.open d arch mode pool = (Reply.ok ⟨arch, mode, some session⟩, pool.acquired) := by
  obtain ⟨s, hs, hunopened, haround⟩ := freshStore_eq hd pool.surroundings
  obtain ⟨t, hidle, hleft, hevents, hopen⟩ := hunopened.run_open_of_accepts harch (s := { store := s })
  have hopen : Session.open d.guest arch mode { store := s } = (.ok (.ok (handleOf arch)), t) := by
    rw [hd]
    exact hopen
  refine ⟨⟨t.store, handleOf arch⟩, ⟨rfl, hidle⟩, ?_⟩
  unfold Disassembler.open Decoder.instantiate
  rw [if_pos hroom, hs]
  simp only [hopen, hevents, hleft, haround]
  rfl

/-- For any other target there is no engine. -/
theorem open_of_not_accepts (hd : d.guest = guest) (harch : ¬ Accepts arch mode) (x : Disassembler Globals) :
    (Disassembler.open d arch mode pool).1.outcome ≠ .ok x := by
  obtain ⟨s, hs, hunopened, -⟩ := freshStore_eq hd pool.surroundings
  obtain ⟨t, status, -, hopen⟩ := hunopened.run_open_of_not_accepts harch (s := { store := s })
  have hopen : Session.open d.guest arch mode { store := s } = (.ok (.error (.rejected arch mode status)), t) := by
    rw [hd]
    exact hopen
  have hends := Disassembler.open_ends d arch mode pool
  generalize Disassembler.open d arch mode pool = outcome at hends ⊢
  cases hends with
  | opened _ hstore hopened =>
    cases hstore.symm.trans hs
    rw [hopen] at hopened
    cases hopened
  | full | unready | stopped | refused => simp [Reply.refuse, Reply.fail]

/-- An opening has no part in the surroundings, for whatever target. -/
theorem surroundings_open (hd : d.guest = guest) (arch : Arch) (mode : Mode) (pool : Pool) :
    (Disassembler.open d arch mode pool).2.surroundings = pool.surroundings := by
  obtain ⟨s, hs, hunopened, haround⟩ := freshStore_eq hd pool.surroundings
  have hopen : ((Session.open d.guest arch mode).run { store := s }).2.store.surroundings = s.surroundings := by
    rw [hd]
    by_cases harch : Accepts arch mode
    · obtain ⟨t, -, hleft, -, hopen⟩ := hunopened.run_open_of_accepts harch (s := { store := s })
      rw [hopen, hleft]
    · obtain ⟨t, status, hleft, hopen⟩ := hunopened.run_open_of_not_accepts harch (s := { store := s })
      rw [hopen, hleft]
  have hends := Disassembler.open_ends d arch mode pool
  generalize Disassembler.open d arch mode pool = outcome at hends ⊢
  cases hends with
  | full => rfl
  | unready _ hstore => cases hstore.symm.trans hs
  | stopped _ hstore hopened | refused _ hstore hopened | opened _ hstore hopened =>
    cases hstore.symm.trans hs
    rw [Host.run, hopened] at hopen
    exact hopen.trans haround

/-- An idle engine in other surroundings is idle. -/
theorem IdleFor.within {session : Session Globals} (h : IdleFor arch session) (around : Surroundings) :
    IdleFor arch { session with store := session.store.within around } :=
  ⟨h.1, h.2.within around⟩

/-- A decode on an idle engine, which is idle again afterwards, in the surroundings that it had. -/
theorem IdleFor.disassemble (hd : d.guest = guest) {session : Session Globals} (h : IdleFor arch session)
    (mode : Mode) {steps : Nat} (hsteps : capacity < steps) (code : List UInt8) :
    ∃ session', IdleFor arch session' ∧ session'.store.surroundings = session.store.surroundings ∧
      Disassembler.disassemble d steps code ⟨arch, mode, some session⟩ =
        (expected (dialectFor arch) code, ⟨arch, mode, some session'⟩) := by
  obtain ⟨s, handle⟩ := session
  obtain ⟨hhandle, hidle⟩ := h
  simp only at hhandle hidle
  subst hhandle
  obtain ⟨t, hidle', hleft, hevents, hrun⟩ :=
    hidle.run_disassemble (s := { store := s }) (handleOf arch) hsteps code
  have hrun : Session.disassemble d.guest (handleOf arch) steps code { store := s } =
      (answer (dialectFor arch) code, t) := by
    rw [hd, ← dialectOf_handleOf]
    exact hrun
  refine ⟨⟨t.store, handleOf arch⟩, ⟨rfl, hidle'⟩, hleft, ?_⟩
  have hcomplaints : t.events = complaints code := by
    simpa using hevents
  rw [Disassembler.disassemble_opened, hrun, expected, ← hcomplaints]

/-- **Decoding through the stand-in is the reference decoding.** An engine on the stand-in answers an input
that there is room for as the reference does, with a panic where the reference has a trap; a longer input is
a panic over the scratch buffer. -/
theorem disassemble_eq_reference (hd : d.guest = guest) (harch : Accepts arch mode) (hroom : pool.hasRoom)
    {steps : Nat} (hsteps : 61360 < steps) (code : List UInt8) :
    ∃ x, Disassembler.open d arch mode pool = (Reply.ok x, pool.acquired) ∧
      (code.length ≤ 61360 → ∀ decoded, reference (dialectFor arch) 0 code = some decoded →
        (x.disassemble d steps code).1.outcome = .ok decoded) ∧
      (code.length ≤ 61360 → reference (dialectFor arch) 0 code = none →
        ∃ p, (x.disassemble d steps code).1.outcome = .error (.stopped (.panic p)) ∧
          p.message = "Wasm trap: `cs_disasm_iter` trapped: wasm trap: wasm `unreachable` instruction executed") ∧
      (61360 < code.length → code.length < 4294967296 →
        ∃ p reason, (x.disassemble d steps code).1.outcome = .error (.stopped (.panic p)) ∧
          p.message = "decoder returned an invalid scratch buffer: " ++ reason) := by
  obtain ⟨session, hidle, hopen⟩ := open_of_accepts hd harch hroom
  obtain ⟨_, _, _, hdecode⟩ := hidle.disassemble hd mode hsteps code
  refine ⟨_, hopen, ?_, ?_, ?_⟩ <;> rw [hdecode, expected]
  · intro hfits decoded hreference
    rw [answer_of_le _ hfits, hreference]
    rfl
  · intro hfits hreference
    rw [answer_of_le _ hfits, hreference]
    exact ⟨_, rfl, by decide⟩
  · intro hlong hlength
    rw [answer, if_neg (by omega), if_pos (show capacity < code.length from hlong)]
    exact ⟨_, _, rfl, rfl⟩

/-- A decoder that runs the stand-in. -/
def decoder : Decoder Globals where
  engine := { config := {}, cacheDir := none }
  module := { contentHash := "", guest }

/-- An `add`, a `syscall`, and the lone first byte of another. -/
theorem disassemble_add_syscall : ∃ x, Disassembler.open decoder .x86 .mode64 { capacity := none } =
    (Reply.ok x, { capacity := none, inUse := 1 }) ∧
    (x.disassemble decoder 70000 [0x01, 0x0F, 0x05, 0x0F]).1.outcome =
      .ok ⟨[⟨0, "add", "%eax, %ecx"⟩, ⟨1, "syscall", ""⟩], 1⟩ := by
  have harch : Accepts .x86 .mode64 := by decide
  have hroom : Pool.hasRoom { capacity := none } := rfl
  have hsteps : 61360 < 70000 := by decide
  obtain ⟨x, hopen, hdecoded, -, -⟩ :=
    disassemble_eq_reference (d := decoder) rfl harch hroom hsteps [0x01, 0x0F, 0x05, 0x0F]
  exact ⟨x, hopen, hdecoded (by decide) _ (by decide +kernel)⟩

end DecoderHost.StandIn

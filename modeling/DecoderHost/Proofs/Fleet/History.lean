import DecoderHost.Proofs.Fleet.Named
import DecoderHost.Proofs.StandIn.Engine

/-!
# Engines have no history

Engines on the stand-in are opened, used and closed in any order, and some of the requests panic. What a
request is answered with can be told from a ledger that has, for each engine, its target and whether it was
closed, and nothing of what was decoded on it or on any other engine: a decode is answered as if the engine
had been opened for it alone.
-/

namespace DecoderHost

variable {α β σ : Type}

/-! ## Requests -/

/-- A request to a fleet of engines. -/
inductive Request where
  | «open» (name : String) (arch : Arch) (mode : Mode)
  | disassemble (name : String) (code : List UInt8)
  | decode (name : String) (code : List UInt8)
  | close (name : String)
  | isClosed (name : String)

/-- What a request is answered with. -/
inductive Answer where
  | engine (arch : Arch) (mode : Mode)
  | disassembly (decoded : Disassembly)
  | lines (lines : List String)
  | closed (isClosed : Bool)
  deriving DecidableEq, Repr

/-- A reply with its answer seen in another way. -/
def Reply.map (f : α → β) (reply : Reply α) : Reply β where
  outcome := reply.outcome.map f
  events := reply.events

@[simp] theorem Reply.outcome_map (f : α → β) (reply : Reply α) :
    (reply.map f).outcome = reply.outcome.map f :=
  rfl

/-- What an engine shows of itself when it is opened. -/
def Disassembler.shown (x : Disassembler σ) : Answer := .engine x.arch x.mode

/-- Carry out one request. There is no reply where no engine has the name. -/
def Fleet.perform (d : Decoder σ) (steps : Nat) (request : Request) (fleet : Fleet σ) :
    Option (Reply Answer) × Fleet σ :=
  match request with
  | .open name arch mode =>
    let (reply, fleet) := fleet.open d name arch mode
    (some (reply.map Disassembler.shown), fleet)
  | .disassemble name code =>
    let (reply, fleet) := fleet.disassemble d steps name code
    (reply.map (Reply.map .disassembly), fleet)
  | .decode name code =>
    let (reply, fleet) := fleet.disassemble d steps name code
    (reply.map (Reply.map fun decoded => .lines decoded.lines), fleet)
  | .close name =>
    let (reply, fleet) := fleet.close name
    (reply.map (Reply.map .closed), fleet)
  | .isClosed name => ((fleet.members.get? name).map fun x => Reply.ok (.closed x.isClosed), fleet)

/-- The replies to requests that are carried out one after another, and the last state. -/
def replies {ρ : Type} (perform : Request → ρ → Option (Reply Answer) × ρ) :
    List Request → ρ → List (Option (Reply Answer)) × ρ
  | [], state => ([], state)
  | request :: rest, state =>
    let (reply, state) := perform request state
    let (more, state) := replies perform rest state
    (reply :: more, state)

/-! ## The ledger -/

/-- What is known of an engine from the requests alone. -/
structure Entry where
  arch : Arch
  mode : Mode
  closed : Bool
  deriving DecidableEq, Repr

/-- The engines by name. -/
abbrev Ledger := Named Entry

/-- Open an engine in a pool of its own. -/
def Decoder.openAlone (d : Decoder σ) (arch : Arch) (mode : Mode) : Reply (Disassembler σ) :=
  (Disassembler.open d arch mode (Pool.ofConfig d.engine.config)).1

/-- Decode on an engine that is opened for this alone. -/
def Decoder.disassembleAlone (d : Decoder σ) (steps : Nat) (arch : Arch) (mode : Mode) (code : List UInt8) :
    Reply Disassembly :=
  match (d.openAlone arch mode).outcome with
  | .ok x => (x.disassemble d steps code).1
  | .error failure => Reply.fail failure

/-- The reply to a decode, by what is known of the engine. -/
def Entry.disassemble (d : Decoder σ) (steps : Nat) (code : List UInt8) (e : Entry) : Reply Disassembly :=
  if e.closed then Reply.fail (.stopped (.panic (.usedAfterClose e.arch)))
  else d.disassembleAlone steps e.arch e.mode code

/-- Carry out one request on the ledger. Decodes leave it as it is, and opening and closing write down no
more than that they took place. -/
def Ledger.perform (d : Decoder σ) (steps : Nat) (request : Request) (ledger : Ledger) :
    Option (Reply Answer) × Ledger :=
  match request with
  | .open name arch mode =>
    let reply := d.openAlone arch mode
    (some (reply.map Disassembler.shown), match reply.outcome with
      | .ok _ => ledger.put name { arch, mode, closed := false }
      | .error _ => ledger)
  | .disassemble name code =>
    ((ledger.get? name).map fun e => (e.disassemble d steps code).map .disassembly, ledger)
  | .decode name code =>
    ((ledger.get? name).map fun e => (e.disassemble d steps code).map fun decoded => .lines decoded.lines,
      ledger)
  | .close name =>
    match ledger.get? name with
    | none => (none, ledger)
    | some e => (some (Reply.ok (.closed true)), ledger.put name { e with closed := true })
  | .isClosed name => ((ledger.get? name).map fun e => Reply.ok (.closed e.closed), ledger)

/-- What the ledger says of one engine from its opening to its closing. -/
theorem Ledger.replies_one_engine {d : Decoder σ} {arch : Arch} {mode : Mode} {x : Disassembler σ}
    (hopen : d.openAlone arch mode = Reply.ok x) (steps : Nat) (name : String) (first second third : List UInt8) :
    (replies (Ledger.perform d steps) [.open name arch mode, .disassemble name first, .decode name second,
      .close name, .decode name third, .isClosed name] []).1 =
    [some (Reply.ok x.shown), some ((d.disassembleAlone steps arch mode first).map .disassembly),
      some ((d.disassembleAlone steps arch mode second).map fun decoded => .lines decoded.lines),
      some (Reply.ok (.closed true)), some (Reply.fail (.stopped (.panic (.usedAfterClose arch)))),
      some (Reply.ok (.closed true))] := by
  simp [replies, Ledger.perform, hopen, Entry.disassemble, Reply.map, Reply.ok, Reply.fail, Except.map]

/-! ## Pools without a limit -/

/-- How an opening ends depends on the pool only through its having room and through its surroundings. -/
theorem Disassembler.open_of_hasRoom (d : Decoder σ) (arch : Arch) (mode : Mode) {pool other : Pool}
    (h : pool.hasRoom) (hother : other.hasRoom) (haround : pool.surroundings = other.surroundings) :
    (Disassembler.open d arch mode pool).1 = (Disassembler.open d arch mode other).1 := by
  unfold Disassembler.open Decoder.instantiate
  rw [if_pos h, if_pos hother, haround]
  rcases d.freshStore other.surroundings with ⟨e | s, left⟩
  · rfl
  · dsimp only
    rcases Session.open d.guest arch mode { store := s } with ⟨_ | (_ | _), t⟩ <;> rfl

/-- A pool without a limit, in the surroundings that a fresh one has. -/
structure Pool.Untouched (pool : Pool) : Prop where
  unlimited : pool.capacity = none
  surroundings : pool.surroundings = {}

theorem Disassembler.capacity_open (d : Decoder σ) (arch : Arch) (mode : Mode) (pool : Pool) :
    (Disassembler.open d arch mode pool).2.capacity = pool.capacity := by
  have hends := Disassembler.open_ends d arch mode pool
  generalize Disassembler.open d arch mode pool = outcome at hends ⊢
  cases hends <;> rfl

theorem Disassembler.capacity_close (x : Disassembler σ) (pool : Pool) :
    (x.close pool).2.capacity = pool.capacity := by
  unfold Disassembler.close
  split <;> rfl

theorem Disassembler.surroundings_close (x : Disassembler σ) (pool : Pool) :
    (x.close pool).2.surroundings = pool.surroundings := by
  unfold Disassembler.close
  split <;> rfl

theorem Fleet.untouched_dropped {fleet : Fleet σ} (h : fleet.pool.Untouched) (name : String) :
    (fleet.dropped name).pool.Untouched := by
  unfold Fleet.dropped
  split
  · exact h
  · exact ⟨(Disassembler.capacity_close ..).trans h.unlimited,
      (Disassembler.surroundings_close ..).trans h.surroundings⟩

theorem Fleet.get?_dropped (fleet : Fleet σ) {name other : String} (h : other ≠ name) :
    (fleet.dropped name).members.get? other = fleet.members.get? other := by
  unfold Fleet.dropped
  split
  · rfl
  · exact Named.get?_without _ h

/-! ## What the ledger knows -/

namespace StandIn

/-- The ledger has an entry for each engine and no other. An open engine is idle. -/
inductive Recorded : Option (Disassembler Globals) → Option Entry → Prop
  | absent : Recorded none none
  | closed (arch : Arch) (mode : Mode) : Recorded (some ⟨arch, mode, none⟩) (some ⟨arch, mode, true⟩)
  | «open» {arch : Arch} {mode : Mode} {session : Session Globals} (haccepts : Accepts arch mode)
      (hidle : IdleFor arch session) :
      Recorded (some ⟨arch, mode, some session⟩) (some ⟨arch, mode, false⟩)

/-- **The ledger tells all there is to know of a fleet.** -/
structure Agrees (fleet : Fleet Globals) (ledger : Ledger) : Prop where
  pool : fleet.pool.Untouched
  members : ∀ name, Recorded (fleet.members.get? name) (ledger.get? name)

variable {d : Decoder Globals} {fleet : Fleet Globals} {ledger : Ledger} {steps : Nat}

/-- A change of one engine, and of its entry if it says so. -/
theorem Agrees.update (h : Agrees fleet ledger) {changed : Fleet Globals} {written : Ledger} (name : String)
    (hpool : changed.pool.Untouched)
    (hmember : Recorded (changed.members.get? name) (written.get? name))
    (hfleet : ∀ other, other ≠ name → changed.members.get? other = fleet.members.get? other)
    (hledger : ∀ other, other ≠ name → written.get? other = ledger.get? other) :
    Agrees changed written where
  pool := hpool
  members other := by
    by_cases hother : other = name
    · rw [hother]
      exact hmember
    · rw [hfleet other hother, hledger other hother]
      exact h.members other

theorem untouched_ofConfig (hpool : d.engine.config.poolingAllocator = false) :
    (Pool.ofConfig d.engine.config).Untouched where
  unlimited := by simp [Pool.ofConfig, EngineConfig.instanceLimit, hpool]
  surroundings := rfl

theorem hasRoom_alone (hpool : d.engine.config.poolingAllocator = false) :
    (Pool.ofConfig d.engine.config).hasRoom :=
  Pool.hasRoom_of_unlimited (untouched_ofConfig hpool).unlimited

theorem openAlone_of_accepts (hd : d.guest = guest) (hpool : d.engine.config.poolingAllocator = false)
    {arch : Arch} {mode : Mode} (harch : Accepts arch mode) :
    ∃ session, IdleFor arch session ∧ d.openAlone arch mode = Reply.ok ⟨arch, mode, some session⟩ := by
  obtain ⟨session, hidle, hopen⟩ := open_of_accepts hd harch (hasRoom_alone hpool)
  exact ⟨session, hidle, congrArg Prod.fst hopen⟩

/-- The reply to a decode on an engine that the stand-in has opened for it alone. -/
theorem disassembleAlone_eq (hd : d.guest = guest) (hpool : d.engine.config.poolingAllocator = false)
    {arch : Arch} {mode : Mode} (harch : Accepts arch mode) (hsteps : capacity < steps) (code : List UInt8) :
    d.disassembleAlone steps arch mode code = expected (dialectFor arch) code := by
  obtain ⟨session, hidle, hopen⟩ := openAlone_of_accepts hd hpool harch
  obtain ⟨_, _, _, hdecode⟩ := hidle.disassemble hd mode hsteps code
  unfold Decoder.disassembleAlone
  rw [hopen]
  exact congrArg Prod.fst hdecode

/-- A decode is answered as the ledger says, and is not noticed afterwards. -/
theorem Agrees.disassemble (h : Agrees fleet ledger) (hd : d.guest = guest)
    (hlimit : d.engine.config.poolingAllocator = false) (hsteps : capacity < steps) (name : String)
    (code : List UInt8) :
    (fleet.disassemble d steps name code).1 = (ledger.get? name).map (Entry.disassemble d steps code) ∧
      Agrees (fleet.disassemble d steps name code).2 ledger := by
  have hmember := h.members name
  unfold Fleet.disassemble
  generalize hx : fleet.members.get? name = x at hmember
  generalize he : ledger.get? name = e at hmember
  cases hmember with
  | absent => exact ⟨rfl, h⟩
  | closed arch mode =>
    refine ⟨rfl, h.update name h.pool ?_ (fun _ => Named.get?_put_of_ne _ _) fun _ _ => rfl⟩
    show Recorded ((fleet.members.put name ⟨arch, mode, none⟩).get? name) (ledger.get? name)
    rw [Named.get?_put_self, he]
    exact .closed arch mode
  | @«open» arch mode session haccepts hidle =>
    obtain ⟨session', hidle', hleft, hdecode⟩ :=
      (hidle.within fleet.pool.surroundings).disassemble hd mode hsteps code
    have hpool : (fleet.pool.within session'.store.surroundings).Untouched :=
      ⟨h.pool.unlimited, hleft.trans h.pool.surroundings⟩
    dsimp only [Disassembler.within, Option.map_some]
    rw [hdecode]
    refine ⟨?_, h.update name hpool ?_ (fun _ => Named.get?_put_of_ne _ _) fun _ _ => rfl⟩
    · rw [Entry.disassemble, if_neg (by simp), disassembleAlone_eq hd hlimit haccepts hsteps]
    · show Recorded ((fleet.members.put name ⟨arch, mode, some session'⟩).get? name) (ledger.get? name)
      rw [Named.get?_put_self, he]
      exact .open haccepts hidle'

/-- An opening is answered as if it were the first, and written down if it succeeds. -/
theorem Agrees.open (h : Agrees fleet ledger) (hd : d.guest = guest)
    (hpool : d.engine.config.poolingAllocator = false) (name : String) (arch : Arch) (mode : Mode) :
    (fleet.open d name arch mode).1 = d.openAlone arch mode ∧
      Agrees (fleet.open d name arch mode).2 (match (d.openAlone arch mode).outcome with
        | .ok _ => ledger.put name { arch, mode, closed := false }
        | .error _ => ledger) := by
  -- A pool without a limit has room whatever was opened before, so that it answers as a fresh one.
  have hroom := Pool.hasRoom_of_unlimited h.pool.unlimited
  have hreply : (Disassembler.open d arch mode fleet.pool).1 = d.openAlone arch mode :=
    Disassembler.open_of_hasRoom d arch mode hroom (hasRoom_alone hpool) h.pool.surroundings
  have huntouched : (Disassembler.open d arch mode fleet.pool).2.Untouched :=
    ⟨(Disassembler.capacity_open ..).trans h.pool.unlimited, (surroundings_open hd ..).trans h.pool.surroundings⟩
  rw [← hreply]
  unfold Fleet.open
  cases houtcome : (Disassembler.open d arch mode fleet.pool).1.outcome with
  | error failure =>
    simp only [houtcome]
    exact ⟨trivial, huntouched, h.members⟩
  | ok x =>
    simp only [houtcome]
    refine ⟨trivial, h.update name ?_ ?_ (fun other hother => ?_) fun _ => Named.get?_put_of_ne _ _⟩
    · exact Fleet.untouched_dropped huntouched name
    · rw [Named.get?_put_self, Named.get?_put_self]
      -- There is an engine, so the target is one that the stand-in accepts, and the engine is idle.
      by_cases haccepts : Accepts arch mode
      · obtain ⟨session, hidle, hopen⟩ := open_of_accepts hd haccepts hroom
        rw [hopen] at houtcome
        cases houtcome
        exact .open haccepts hidle
      · exact absurd houtcome (open_of_not_accepts hd haccepts x)
    · exact (Named.get?_put_of_ne _ x hother).trans (Fleet.get?_dropped _ hother)

theorem Agrees.putClosed (h : Agrees fleet ledger) {pool : Pool} (hpool : pool.Untouched) (name : String)
    (arch : Arch) (mode : Mode) :
    Agrees { pool, members := fleet.members.put name ⟨arch, mode, none⟩ }
      (Named.put ledger name ⟨arch, mode, true⟩) := by
  refine h.update name hpool ?_ (fun _ => Named.get?_put_of_ne _ _) fun _ => Named.get?_put_of_ne _ _
  rw [Named.get?_put_self, Named.get?_put_self]
  exact .closed arch mode

/-- Closing an engine is written down, and closing it again changes nothing. -/
theorem Agrees.close (h : Agrees fleet ledger) (name : String) :
    (fleet.close name).1 = (ledger.get? name).map (fun _ => Reply.ok true) ∧
      Agrees (fleet.close name).2 (match ledger.get? name with
        | none => ledger
        | some e => ledger.put name { e with closed := true }) := by
  have hmember := h.members name
  unfold Fleet.close
  generalize hx : fleet.members.get? name = x at hmember
  generalize he : ledger.get? name = e at hmember
  cases hmember with
  | absent => exact ⟨rfl, h⟩
  | closed arch mode => exact ⟨rfl, h.putClosed h.pool name arch mode⟩
  | @«open» arch mode =>
    have hpool : fleet.pool.released.Untouched := ⟨h.pool.unlimited, h.pool.surroundings⟩
    exact ⟨rfl, h.putClosed hpool name arch mode⟩

/-- **One request is answered as the ledger says, and the ledger stays true.** -/
theorem Agrees.perform (h : Agrees fleet ledger) (hd : d.guest = guest)
    (hpool : d.engine.config.poolingAllocator = false) (hsteps : capacity < steps) (request : Request) :
    (fleet.perform d steps request).1 = (ledger.perform d steps request).1 ∧
      Agrees (fleet.perform d steps request).2 (ledger.perform d steps request).2 := by
  cases request with
  | «open» name arch mode =>
    obtain ⟨hreply, hagrees⟩ := h.open hd hpool name arch mode
    simp only [Fleet.perform, Ledger.perform, hreply]
    cases houtcome : (d.openAlone arch mode).outcome with
    | error failure =>
      rw [houtcome] at hagrees
      exact ⟨trivial, hagrees⟩
    | ok x =>
      rw [houtcome] at hagrees
      exact ⟨trivial, hagrees⟩
  | disassemble name code =>
    obtain ⟨hreply, hagrees⟩ := h.disassemble hd hpool hsteps name code
    refine ⟨?_, hagrees⟩
    simp only [Fleet.perform, Ledger.perform, hreply, Option.map_map]
    rfl
  | decode name code =>
    obtain ⟨hreply, hagrees⟩ := h.disassemble hd hpool hsteps name code
    refine ⟨?_, hagrees⟩
    simp only [Fleet.perform, Ledger.perform, hreply, Option.map_map]
    rfl
  | close name =>
    obtain ⟨hreply, hagrees⟩ := h.close name
    simp only [Fleet.perform, Ledger.perform, hreply]
    cases he : ledger.get? name with
    | none =>
      rw [he] at hagrees
      exact ⟨rfl, hagrees⟩
    | some e =>
      rw [he] at hagrees
      exact ⟨rfl, hagrees⟩
  | isClosed name =>
    refine ⟨?_, h⟩
    have hmember := h.members name
    simp only [Fleet.perform, Ledger.perform]
    generalize fleet.members.get? name = x at hmember
    generalize ledger.get? name = e at hmember
    cases hmember <;> rfl

/-- Any number of requests. -/
theorem Agrees.replies (h : Agrees fleet ledger) (hd : d.guest = guest)
    (hpool : d.engine.config.poolingAllocator = false) (hsteps : capacity < steps)
    (requests : List Request) :
    (DecoderHost.replies (Fleet.perform d steps) requests fleet).1 =
        (DecoderHost.replies (Ledger.perform d steps) requests ledger).1 ∧
      Agrees (DecoderHost.replies (Fleet.perform d steps) requests fleet).2
        (DecoderHost.replies (Ledger.perform d steps) requests ledger).2 := by
  induction requests generalizing fleet ledger with
  | nil => exact ⟨rfl, h⟩
  | cons request rest ih =>
    obtain ⟨hreply, hagrees⟩ := h.perform hd hpool hsteps request
    obtain ⟨hmore, hlast⟩ := ih hagrees
    refine ⟨?_, hlast⟩
    simp only [DecoderHost.replies, hreply, hmore]

/-- An idle engine has nothing allocated, by its own account. -/
theorem Idle.live_allocations {s : Scene Globals} (h : Idle s.store) :
    ((guest.call "live_allocations" []).run s).1 = .ok 0 := by
  have hcode : GuestAction.run (do return (← GuestAction.globals).live) s.store = (.ok 0, s.store) := by
    rw [GuestAction.run_bind_of_ok (GuestAction.run_globals _), GuestAction.run_pure, h.live]
  have hcall : (guest.call "live_allocations" []).run s = (.ok 0, s) :=
    Guest.run_call_words [] rfl (run_one hcode) rfl
  rw [hcall]

theorem agrees_ofDecoder (hpool : d.engine.config.poolingAllocator = false) :
    Agrees (Fleet.ofDecoder d) [] where
  pool := untouched_ofConfig hpool
  members _ := .absent

/-- **Engines have no history.** On the stand-in, without a limit on instances, every sequence of requests is
answered as the ledger says: an opening as on a fresh runtime; a decode, unless its engine is closed, as on an
engine opened for it alone; a decode on a closed engine with a panic. Open engines have nothing allocated
between requests. -/
theorem replies_eq_ledger (hd : d.guest = guest) (hpool : d.engine.config.poolingAllocator = false)
    (hsteps : 61360 < steps) (requests : List Request) :
    (replies (Fleet.perform d steps) requests (Fleet.ofDecoder d)).1 =
        (replies (Ledger.perform d steps) requests []).1 ∧
      (∀ name x session,
        (replies (Fleet.perform d steps) requests (Fleet.ofDecoder d)).2.members.get? name = some x →
        x.session = some session →
        ((d.guest.call "live_allocations" []).run { store := session.store }).1 = .ok 0) ∧
      ∀ arch : Arch, (Panic.usedAfterClose arch).message = arch.name ++ " disassembler used after close" := by
  obtain ⟨hreplies, hagrees⟩ := (agrees_ofDecoder hpool).replies hd hpool hsteps requests
  refine ⟨hreplies, ?_, fun _ => rfl⟩
  -- An engine with a session is in the ledger as an open one, and those are idle.
  intro name x session hx hsession
  have hmember := hagrees.members name
  rw [hx] at hmember
  generalize Named.get? _ name = e at hmember
  cases hmember with
  | closed => cases hsession
  | «open» _ hidle =>
    cases hsession
    rw [hd]
    exact hidle.2.live_allocations (s := { store := _ })

/-- A trap in between does not matter, and closing does. -/
theorem replies_around_trap :
    (replies (Fleet.perform decoder 70000) [.open "a" .x86 .mode64, .disassemble "a" [0xCC],
      .decode "a" [0x90], .close "a", .decode "a" [0x90], .isClosed "a"] (Fleet.ofDecoder decoder)).1.map
        (Option.map Reply.outcome) =
      [some (.ok (.engine .x86 .mode64)), some (.error (.stopped fault)), some (.ok (.lines ["nop"])),
        some (.ok (.closed true)), some (.error (.stopped (.panic (.usedAfterClose .x86)))),
        some (.ok (.closed true))] := by
  have hsteps : 61360 < 70000 := by decide
  have harch : Accepts .x86 .mode64 := by decide
  obtain ⟨session, _, halone⟩ := openAlone_of_accepts (d := decoder) rfl rfl harch
  have htrap : (expected .x86 [0xCC]).outcome = .error (.stopped fault) := by
    have hreference : reference .x86 0 [0xCC] = none := by decide +kernel
    rw [expected, answer_of_le _ (by decide), hreference]
    rfl
  have hnop : (expected .x86 [0x90]).outcome = .ok ⟨[⟨0, "nop", ""⟩], 0⟩ := by
    have hreference : reference .x86 0 [0x90] = some ⟨[⟨0, "nop", ""⟩], 0⟩ := by decide +kernel
    rw [expected, answer_of_le _ (by decide), hreference]
    rfl
  have hdecode (code : List UInt8) :
      decoder.disassembleAlone 70000 .x86 .mode64 code = expected .x86 code :=
    disassembleAlone_eq rfl rfl harch hsteps code
  rw [(replies_eq_ledger (d := decoder) rfl rfl hsteps _).1, Ledger.replies_one_engine halone, hdecode, hdecode]
  simp [htrap, hnop, Reply.ok, Reply.fail, Except.map, Disassembler.shown,
    Disassembly.lines, Instruction.line]

end StandIn

end DecoderHost

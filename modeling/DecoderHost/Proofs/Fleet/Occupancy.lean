import DecoderHost.Proofs.Fleet.History
import DecoderHost.Proofs.Instance.Initialisation
import DecoderHost.Proofs.Session.Opening
import Mathlib.Data.Finset.Card

/-!
# Every live instance belongs to an open engine

An engine is opened in many steps, each of which may fail in a way of its own after its instance has been made.
Whatever the guest does, the instance is given up again unless the engine is opened, and then it is held until
the engine is closed or dropped, through all decodes and their panics. So the pool is full just when as many
engines are open as it has room for.
-/

namespace DecoderHost

variable {σ : Type} {d : Decoder σ}

/-! ## One opening -/

/-- A text begins as its first part does. -/
theorem head?_append {text : String} {c : Char} (h : text.toList.head? = some c) (more : String) :
    (text ++ more).toList.head? = some c := by
  rw [String.toList_append, List.head?_append, h]
  rfl

/-- The wording of a trap does not begin like that of a full pool. -/
theorem Trap.head_message_ne (trap : Trap) : trap.message.toList.head? ≠ some 't' := by
  cases trap with
  | exit status =>
    have hfirst : "Exited with i32 exit status ".toList.head? = some 'E' := by decide
    exact (head?_append hfirst (toString status)).trans_ne (by decide)
  | undefinedImport name =>
    have hfirst : "unknown import: `".toList.head? = some 'u' := by decide
    exact (head?_append (head?_append hfirst name) "` has not been defined").trans_ne (by decide)
  | _ => decide

theorem StartFailure.head_message_ne (failure : StartFailure) : failure.message.toList.head? ≠ some 't' := by
  cases failure with
  | unresolvedImport name =>
    have hfirst : "unknown import: `".toList.head? = some 'u' := by decide
    exact (head?_append (head?_append hfirst name) "` has not been defined").trans_ne (by decide)
  | trapped trap => exact trap.head_message_ne

/-- An instance that is not made ready does not look as if there had been no room. -/
theorem Decoder.freshStore_ne_noRoom (d : Decoder σ) (around : Surroundings) :
    (d.freshStore around).1 ≠ .error noRoom := by
  cases hstart : d.guest.start d.engine.config.pageLimit around with
  | error failure =>
    intro h
    simp only [freshStore, hstart] at h
    have hmessage : failure.1.message = "the limit of concurrent instances has been reached" :=
      HostError.instantiationFailed.inj (Except.error.inj h)
    exact failure.1.head_message_ne (by rw [hmessage]; decide)
  | ok s =>
    obtain ⟨made, outcome, t, hready⟩ := d.guest.exists_initialises s
    rw [freshStore_of_start hstart hready.makeReady_eq]
    cases hready <;> simp [noRoom, Except.map]

/-- An engine that refuses says so with a status. -/
theorem Session.rejected_of_open {g : Guest σ} {arch : Arch} {mode : Mode} {s t : Scene σ} {e : OpenError}
    (h : (Session.open g arch mode).run s = (.ok (.error e), t)) :
    ∃ status, e = .rejected arch mode status := by
  obtain ⟨o, _, hanswers, _⟩ := open_eq_ok h
  cases hanswers.settles with
  | rejected => exact ⟨_, rfl⟩

/-- What comes of opening an engine in a pool: an open engine that holds an instance, or a failure that holds
none, and a failure for want of room only if there is none. -/
inductive Disassembler.Opens (pool : Pool) : Reply (Disassembler σ) × Pool → Prop
  | opened {x : Disassembler σ} {events : Array Event} {left : Surroundings} (hroom : pool.hasRoom)
      (hopen : x.isClosed = false) :
    Opens pool ({ outcome := .ok x, events }, pool.acquired.within left)
  | failed {failure : Failure} {events : Array Event} {left : Surroundings} (hroom : pool.hasRoom)
      (hfailure : failure ≠ .refused (.host Decoder.noRoom)) :
    Opens pool ({ outcome := .error failure, events }, pool.within left)
  | full (hfull : ¬ pool.hasRoom) : Opens pool (Reply.refuse Decoder.noRoom, pool)

theorem Disassembler.opens (d : Decoder σ) (arch : Arch) (mode : Mode) (pool : Pool) :
    Opens pool (Disassembler.open d arch mode pool) := by
  have hends := Disassembler.open_ends d arch mode pool
  generalize Disassembler.open d arch mode pool = outcome at hends ⊢
  cases hends with
  | full hfull => exact .full hfull
  | unready hroom hstore =>
    refine .failed hroom fun h => d.freshStore_ne_noRoom pool.surroundings ?_
    cases h
    rw [hstore]
  | stopped hroom => exact .failed hroom (by simp)
  | refused hroom _ hopen =>
    obtain ⟨status, rfl⟩ := Session.rejected_of_open hopen
    exact .failed hroom (by simp)
  | opened hroom => exact .opened hroom rfl

/-- A decode neither opens nor closes. -/
@[simp] theorem Disassembler.isClosed_disassemble (d : Decoder σ) (steps : Nat) (code : List UInt8)
    (x : Disassembler σ) : (x.disassemble d steps code).2.isClosed = x.isClosed := by
  obtain ⟨arch, mode, _ | ⟨store, handle⟩⟩ := x
  · rfl
  · rw [disassemble_opened]
    rfl

/-- Nor do other surroundings. -/
@[simp] theorem Disassembler.isClosed_within (x : Disassembler σ) (surroundings : Surroundings) :
    (x.within surroundings).isClosed = x.isClosed := by
  obtain ⟨arch, mode, _ | session⟩ := x <;> rfl

/-! ## Deeds -/

/-- What is done to the engines of a fleet. -/
inductive Deed where
  | «open» (name : String) (arch : Arch) (mode : Mode)
  | disassemble (name : String) (code : List UInt8)
  | close (name : String)
  | drop (name : String)

/-- Do something to a fleet, and keep the roll of open engines: the name of an engine is written down when it is
opened, and struck out when it is closed or dropped. -/
def Fleet.undergo (d : Decoder σ) (steps : Nat) (state : Fleet σ × Finset String) (deed : Deed) :
    Fleet σ × Finset String :=
  match deed with
  | .open name arch mode =>
    let (reply, fleet) := state.1.open d name arch mode
    (fleet, if reply.outcome.isOk then insert name state.2 else state.2)
  | .disassemble name code => ((state.1.disassemble d steps name code).2, state.2)
  | .close name => ((state.1.close name).2, state.2.erase name)
  | .drop name => ((state.1.drop name).2, state.2.erase name)

/-- A fleet after any number of deeds, with its roll. -/
def Fleet.after (d : Decoder σ) (steps : Nat) (deeds : List Deed) : Fleet σ × Finset String :=
  deeds.foldl (Fleet.undergo d steps) (Fleet.ofDecoder d, ∅)

theorem Fleet.after_append (d : Decoder σ) (steps : Nat) (deeds : List Deed) (deed : Deed) :
    Fleet.after d steps (deeds ++ [deed]) = Fleet.undergo d steps (Fleet.after d steps deeds) deed := by
  simp [Fleet.after]

/-! ## The count -/

/-- The instances in use are those of the engines on the roll and `others` that are in no engine of the fleet,
and are no more than there is room for. -/
structure Counted (limit others : Nat) (fleet : Fleet σ) (roll : Finset String) : Prop where
  capacity : fleet.pool.capacity = some limit
  mem_roll : ∀ name, name ∈ roll ↔ ∃ x, fleet.members.get? name = some x ∧ x.isClosed = false
  inUse : fleet.pool.inUse = roll.card + others
  le_limit : fleet.pool.inUse ≤ limit

namespace Counted

variable {limit others : Nat} {fleet : Fleet σ} {roll : Finset String}

theorem hasRoom_iff (h : Counted limit 0 fleet roll) : fleet.pool.hasRoom ↔ roll.card < limit := by
  have hinUse := h.inUse
  simp only [Pool.hasRoom, h.capacity, decide_eq_true_eq]
  omega

theorem not_mem_roll (h : Counted limit others fleet roll) {name : String} (hnone : fleet.members.get? name = none) :
    name ∉ roll := by
  rw [h.mem_roll, hnone]
  rintro ⟨x, hx, -⟩
  cases hx

theorem mem_roll_iff (h : Counted limit others fleet roll) {name : String} {x : Disassembler σ}
    (hx : fleet.members.get? name = some x) : name ∈ roll ↔ x.isClosed = false := by
  rw [h.mem_roll, hx]
  simp

/-- An engine is closed, and then kept as it is or let go. -/
theorem close {name : String} {x : Disassembler σ} (h : Counted limit others fleet roll)
    (hx : fleet.members.get? name = some x) {members : Named (Disassembler σ)}
    (hself : ∀ y, members.get? name = some y → y.isClosed = true)
    (hother : ∀ other, other ≠ name → members.get? other = fleet.members.get? other) :
    Counted limit others { pool := (x.close fleet.pool).2, members } (roll.erase name) := by
  have hmem := h.mem_roll_iff hx
  have hinUse := h.inUse
  have hle := h.le_limit
  refine ⟨(x.capacity_close _).trans h.capacity, fun other => ?_, ?_, ?_⟩
  · by_cases hname : other = name
    · subst hname
      simp only [Finset.mem_erase, ne_eq, not_true_eq_false, false_and, false_iff]
      rintro ⟨y, hy, hopen⟩
      simp [hself y hy] at hopen
    · simp only [Finset.mem_erase, ne_eq, hname, not_false_eq_true, true_and, h.mem_roll, hother other hname]
  · unfold Disassembler.close Disassembler.isClosed at *
    cases hsession : x.session with
    | none =>
      rw [Finset.erase_eq_of_notMem (by simp [hmem, hsession])]
      exact hinUse
    | some session =>
      have hin : name ∈ roll := by simp [hmem, hsession]
      have hpositive := Finset.card_pos.mpr ⟨name, hin⟩
      simp only [Pool.released, Finset.card_erase_of_mem hin]
      omega
  · unfold Disassembler.close
    cases x.session with
    | none => exact hle
    | some session => exact Nat.le_trans (Nat.sub_le ..) hle

theorem dropped (h : Counted limit others fleet roll) (name : String) :
    Counted limit others (fleet.dropped name) (roll.erase name) := by
  unfold Fleet.dropped
  cases hx : fleet.members.get? name with
  | none =>
    rw [Finset.erase_eq_of_notMem (h.not_mem_roll hx)]
    exact h
  | some x => exact h.close hx (by simp) fun _ hother => Named.get?_without _ hother

/-- An instance that is in no engine of the fleet becomes that of an engine with a new name. -/
theorem put {name : String} {x : Disassembler σ} (h : Counted limit (others + 1) fleet roll) (hname : name ∉ roll)
    (hopen : x.isClosed = false) :
    Counted limit others { fleet with members := fleet.members.put name x } (insert name roll) := by
  refine ⟨h.capacity, fun other => ?_, ?_, h.le_limit⟩
  · by_cases hother : other = name
    · subst hother
      simp [hopen]
    · simp [Finset.mem_insert, hother, h.mem_roll, Named.get?_put_of_ne _ x hother]
  · rw [Finset.card_insert_of_notMem hname]
    have := h.inUse
    show fleet.pool.inUse = _
    omega

/-- **One deed.** Whatever is done to the fleet, and whatever comes of it, the roll tells the number of
instances. -/
theorem undergo (h : Counted limit 0 fleet roll) (d : Decoder σ) (steps : Nat) (deed : Deed) :
    Counted limit 0 (Fleet.undergo d steps (fleet, roll) deed).1 (Fleet.undergo d steps (fleet, roll) deed).2 := by
  cases deed with
  | «open» name arch mode =>
    have hopens := Disassembler.opens d arch mode fleet.pool
    rcases hresult : Disassembler.open d arch mode fleet.pool with ⟨reply, pool⟩
    rw [hresult] at hopens
    simp only [Fleet.undergo, Fleet.open, hresult]
    cases hopens with
    | @opened x events left hroom hopen =>
      -- While the engine that had the name is let go, the new one is in no place of the fleet.
      have hheld : Counted limit 1 { fleet with pool := fleet.pool.acquired.within left } roll := by
        have hinUse := h.inUse
        have hlt := h.hasRoom_iff.mp hroom
        refine ⟨h.capacity, h.mem_roll, ?_, ?_⟩ <;> simp only [Pool.within, Pool.acquired] <;> omega
      have hput := (hheld.dropped name).put (Finset.notMem_erase name roll) hopen
      have hroll : insert name (roll.erase name) = insert name roll := by grind
      rw [hroll] at hput
      exact hput
    | failed hroom hfailure => exact ⟨h.capacity, h.mem_roll, h.inUse, h.le_limit⟩
    | full hfull => exact h
  | disassemble name code =>
    simp only [Fleet.undergo, Fleet.disassemble]
    cases hx : fleet.members.get? name with
    | none => exact h
    | some x =>
      refine ⟨h.capacity, fun other => ?_, h.inUse, h.le_limit⟩
      show other ∈ roll ↔ ∃ y, (fleet.members.put name _).get? other = some y ∧ y.isClosed = false
      by_cases hother : other = name
      · subst hother
        rw [h.mem_roll_iff hx, Named.get?_put_self]
        simp
      · rw [Named.get?_put_of_ne _ _ hother]
        exact h.mem_roll other
  | close name =>
    simp only [Fleet.undergo, Fleet.close]
    cases hx : fleet.members.get? name with
    | none =>
      rw [Finset.erase_eq_of_notMem (h.not_mem_roll hx)]
      exact h
    | some x =>
      refine h.close hx (fun y hy => ?_) fun _ hother => Named.get?_put_of_ne _ _ hother
      rw [Named.get?_put_self, Option.some.injEq] at hy
      subst hy
      unfold Disassembler.close
      cases hsession : x.session <;> simp [Disassembler.isClosed, hsession]
  | drop name => exact h.dropped name

/-- An opening is refused for want of room just when the engines on the roll take up all the room. -/
theorem refused_iff (h : Counted limit 0 fleet roll) (d : Decoder σ) (name : String) (arch : Arch) (mode : Mode) :
    (fleet.open d name arch mode).1.outcome = .error (.refused (.host Decoder.noRoom)) ↔ roll.card = limit := by
  have hopens := Disassembler.opens d arch mode fleet.pool
  have hroom := h.hasRoom_iff
  have hle := h.inUse ▸ h.le_limit
  rcases hresult : Disassembler.open d arch mode fleet.pool with ⟨reply, pool⟩
  rw [hresult] at hopens
  simp only [Fleet.open, hresult]
  cases hopens with
  | opened hfree => exact iff_of_false (by simp) (by have := hroom.mp hfree; omega)
  | failed hfree hfailure => exact iff_of_false (by simpa using hfailure) (by have := hroom.mp hfree; omega)
  | full hfull => exact iff_of_true rfl (by have := mt hroom.mpr hfull; omega)

/-- Any number of deeds. -/
theorem after (hpool : d.engine.config.poolingAllocator = true) (steps : Nat) (deeds : List Deed) :
    Counted d.engine.config.maxInstances.toNat 0 (Fleet.after d steps deeds).1 (Fleet.after d steps deeds).2 := by
  have hstart : Counted d.engine.config.maxInstances.toNat 0 (Fleet.ofDecoder d) ∅ := by
    refine ⟨?_, fun name => ?_, rfl, Nat.zero_le _⟩
    · simp [Fleet.ofDecoder, Pool.ofConfig, EngineConfig.instanceLimit, hpool]
    · simp [Fleet.ofDecoder, Named.get?]
  unfold Fleet.after
  generalize Fleet.ofDecoder d = fleet at hstart
  generalize (∅ : Finset String) = roll at hstart
  induction deeds generalizing fleet roll with
  | nil => exact hstart
  | cons deed rest ih => exact ih _ _ (hstart.undergo d steps deed)

end Counted

/-- **No instance is leaked.** With a limit on instances, after any deeds and whatever the guest does, there are
as many instances as engines on the roll, which are the open engines of the fleet; never more than the limit. An
opening is refused for want of room just when the limit is reached, and when an open engine has been closed there
is room for another. -/
theorem instances_eq_open (hpool : d.engine.config.poolingAllocator = true) (steps : Nat) (deeds : List Deed) :
    ∃ fleet roll, Fleet.after d steps deeds = (fleet, roll) ∧ fleet.pool.inUse = roll.card ∧
      (∀ name, name ∈ roll ↔ ∃ x, fleet.members.get? name = some x ∧ x.isClosed = false) ∧
      roll.card ≤ d.engine.config.maxInstances.toNat ∧
      (∀ name arch mode, (fleet.open d name arch mode).1.outcome = .error (.refused (.host Decoder.noRoom)) ↔
        roll.card = d.engine.config.maxInstances.toNat) ∧
      ∀ name ∈ roll, ∀ other arch mode,
        ((fleet.close name).2.open d other arch mode).1.outcome ≠ .error (.refused (.host Decoder.noRoom)) := by
  have hcounted := Counted.after hpool steps deeds
  have hle : (Fleet.after d steps deeds).2.card ≤ d.engine.config.maxInstances.toNat := by
    have hinUse := hcounted.inUse
    have hlimit := hcounted.le_limit
    omega
  refine ⟨(Fleet.after d steps deeds).1, (Fleet.after d steps deeds).2, rfl, hcounted.inUse, hcounted.mem_roll, hle,
    hcounted.refused_iff d, ?_⟩
  intro name hname other arch mode hrefused
  have hclosed := hcounted.undergo d steps (.close name)
  have hfull : ((Fleet.after d steps deeds).2.erase name).card = d.engine.config.maxInstances.toNat :=
    (hclosed.refused_iff d other arch mode).mp hrefused
  have hpositive := Finset.card_pos.mpr ⟨name, hname⟩
  rw [Finset.card_erase_of_mem hname] at hfull
  omega

/-! ## On the stand-in -/

namespace StandIn

section

variable {d : Decoder Globals} {steps : Nat} {deeds : List Deed} {roll : Finset String}

/-- On the stand-in an engine is opened if there is room for it. -/
theorem roll_open (hd : d.guest = guest) (hpool : d.engine.config.poolingAllocator = true) {arch : Arch} {mode : Mode}
    (harch : Accepts arch mode) (hroll : (Fleet.after d steps deeds).2 = roll)
    (hroom : roll.card < d.engine.config.maxInstances.toNat) (name : String) :
    (Fleet.after d steps (deeds ++ [.open name arch mode])).2 = insert name roll := by
  have hcounted := Counted.after hpool steps deeds
  rw [hroll] at hcounted
  obtain ⟨session, -, hopen⟩ := open_of_accepts hd harch (hcounted.hasRoom_iff.mpr hroom)
  rw [Fleet.after_append, ← hroll]
  simp only [Fleet.undergo, Fleet.open, hopen]
  rfl

theorem roll_disassemble (hroll : (Fleet.after d steps deeds).2 = roll) (name : String) (code : List UInt8) :
    (Fleet.after d steps (deeds ++ [.disassemble name code])).2 = roll := by
  rw [Fleet.after_append, ← hroll]
  rfl

theorem roll_close (hroll : (Fleet.after d steps deeds).2 = roll) (name : String) :
    (Fleet.after d steps (deeds ++ [.close name])).2 = roll.erase name := by
  rw [Fleet.after_append, ← hroll]
  rfl

end

/-- A decoder that runs the stand-in in a pool with room for one. -/
def pooled : Decoder Globals where
  engine := { config := { poolingAllocator := true, maxInstances := 1 }, cacheDir := none }
  module := { contentHash := "", guest }

/-- After a trap the engine still has its instance, so that there is no room for another until it is closed. -/
theorem pooled_instances_eq_open :
    ∃ fleet, Fleet.after pooled 70000 [.open "a" .x86 .mode64, .disassemble "a" [0xCC]] = (fleet, {"a"}) ∧
      fleet.pool.inUse = 1 ∧
      (fleet.open pooled "b" .arm ⟨0⟩).1.outcome = .error (.refused (.host Decoder.noRoom)) ∧
      ((fleet.close "a").2.open pooled "b" .arm ⟨0⟩).1.outcome ≠ .error (.refused (.host Decoder.noRoom)) := by
  have hstart : (Fleet.after pooled 70000 []).2 = ∅ := rfl
  have harch : Accepts .x86 .mode64 := by decide
  have hopened := roll_open rfl rfl harch hstart (by decide) "a"
  have htrapped := roll_disassemble hopened "a" [0xCC]
  obtain ⟨fleet, roll, hafter, hinUse, -, -, hrefused, hroom⟩ :=
    instances_eq_open (d := pooled) rfl 70000 [.open "a" .x86 .mode64, .disassemble "a" [0xCC]]
  simp only [List.nil_append, List.cons_append, hafter] at htrapped
  obtain rfl : roll = {"a"} := htrapped
  exact ⟨fleet, hafter, hinUse, (hrefused "b" .arm ⟨0⟩).mpr rfl, hroom "a" (by simp) "b" .arm ⟨0⟩⟩

/-- Closing an engine that is closed already makes no room. -/
theorem close_again_makes_no_room :
    ((Fleet.after pooled 70000 [.open "a" .x86 .mode64, .close "a", .open "b" .x86 .mode64, .close "a"]).1.open
      pooled "c" .x86 .mode64).1.outcome = .error (.refused (.host Decoder.noRoom)) := by
  have hstart : (Fleet.after pooled 70000 []).2 = ∅ := rfl
  have harch : Accepts .x86 .mode64 := by decide
  have hfirst := roll_open rfl rfl harch hstart (by decide) "a"
  have hclosed := roll_close hfirst "a"
  have hsecond := roll_open rfl rfl harch hclosed (by decide) "b"
  have hagain := roll_close hsecond "a"
  have hcounted := Counted.after (d := pooled) rfl 70000
    [.open "a" .x86 .mode64, .close "a", .open "b" .x86 .mode64, .close "a"]
  refine (hcounted.refused_iff pooled "c" .x86 .mode64).mpr ?_
  simp only [List.nil_append, List.cons_append] at hagain
  rw [hagain]
  decide

end StandIn

end DecoderHost

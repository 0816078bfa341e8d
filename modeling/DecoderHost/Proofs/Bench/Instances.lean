import DecoderHost.Proofs.Bench.Calls
import DecoderHost.Proofs.Instance.Initialisation

/-!
# Instances on a bench

Instances are made on a bench, used and dropped in any order, while the surroundings change from outside as well. The
places in the pool that are taken are those of the instances on the bench (`Counted`), so that neither an instance that
was given up nor one that was not made ready is in the way of another. The main statement is
`instantiate_initialises`: what comes of making an instance depends on the guest and the surroundings that it finds, and
on nothing else. Instances do share the surroundings and the places, and that can be noticed (`instantiate_noticed`).
-/

namespace DecoderHost

variable {σ : Type}

/-! ## A bench in use -/

/-- What is done to a bench. -/
inductive BenchDeed where
  | instantiate (name : String)
  | drop (name : String)
  | call (name : String) (call : BenchCall)
  | resolve (name function : String)
  | change (name : String) (edit : Memory → Except OutOfBounds Memory)
  | surround (now : Surroundings)

namespace Bench

/-- Do something to a bench. -/
def undergo (d : Decoder σ) (bench : Bench σ) : BenchDeed → Bench σ
  | .instantiate name => (bench.instantiate d name).2
  | .drop name => (bench.drop name).2
  | .call name call => bench.called d name call
  | .resolve name function => (bench.resolve d name function).2
  | .change name edit => (bench.change name edit).2
  | .surround now => { bench with pool := bench.pool.within now }

/-- A bench after any number of deeds. -/
def history (d : Decoder σ) (deeds : List BenchDeed) : Bench σ := deeds.foldl (undergo d) (ofDecoder d)

/-- The instances in use are those on the bench, and those that `others` counts. -/
structure Counted (d : Decoder σ) (others : Nat) (bench : Bench σ) : Prop where
  capacity : bench.pool.capacity = d.engine.config.instanceLimit
  names : (bench.instances.map Prod.fst).Nodup
  inUse : bench.pool.inUse = bench.instances.length + others

namespace Counted

variable {d : Decoder σ} {others : Nat} {bench : Bench σ}

theorem within (h : Counted d others bench) (now : Surroundings) :
    Counted d others { bench with pool := bench.pool.within now } :=
  ⟨h.capacity, h.names, h.inUse⟩

theorem dropped (h : Counted d others bench) (name : String) : Counted d others (bench.dropped name) := by
  unfold Bench.dropped
  cases hget : bench.instances.get? name with
  | none => exact h
  | some i =>
    refine ⟨h.capacity, Named.nodup_names_without h.names name, ?_⟩
    have hlength := Named.length_without h.names hget
    have hinUse := h.inUse
    simp only [Pool.released]
    omega

/-- An instance that is not on the bench yet gets a name that is free. -/
theorem put (h : Counted d (others + 1) bench) {name : String} (hname : bench.instances.get? name = none)
    (i : BenchInstance σ) : Counted d others { bench with instances := bench.instances.put name i } := by
  refine ⟨h.capacity, Named.nodup_names_put h.names name i, ?_⟩
  have hinUse := h.inUse
  simp only [Named.put, Named.without_eq_self hname, List.length_cons]
  omega

/-- An instance takes the place of the one that has a name. -/
theorem replaced (h : Counted d others bench) {name : String} {i : BenchInstance σ}
    (hget : bench.instances.get? name = some i) (j : BenchInstance σ) :
    Counted d others { bench with instances := bench.instances.put name j } := by
  refine ⟨h.capacity, Named.nodup_names_put h.names name j, ?_⟩
  have hlength := Named.length_without h.names hget
  have hinUse := h.inUse
  simp only [Named.put, List.length_cons]
  omega

theorem use {α : Type} (h : Counted d others bench) (name function : String) (m : Host σ α) :
    Counted d others (bench.use d name function m).2 := by
  unfold Bench.use
  cases hget : bench.instances.get? name with
  | none => exact h
  | some i => exact (h.replaced hget _).within _

theorem change (h : Counted d others bench) (name : String) (edit : Memory → Except OutOfBounds Memory) :
    Counted d others (bench.change name edit).2 := by
  unfold Bench.change
  cases hget : bench.instances.get? name with
  | none => exact h
  | some i =>
    dsimp only
    split
    · exact h
    · exact h.replaced hget _

end Counted

variable {d : Decoder σ} {bench : Bench σ} {name : String}

@[simp] theorem get?_dropped_self (bench : Bench σ) (name : String) :
    (bench.dropped name).instances.get? name = none := by
  unfold dropped
  cases hget : bench.instances.get? name with
  | none => exact hget
  | some i => exact Named.get?_without_self ..

theorem get?_dropped (bench : Bench σ) {name other : String} (h : other ≠ name) :
    (bench.dropped name).instances.get? other = bench.instances.get? other := by
  unfold dropped
  cases bench.instances.get? name with
  | none => rfl
  | some i => exact Named.get?_without _ h

/-- Giving an instance up leaves the surroundings alone. -/
@[simp] theorem surroundings_dropped (bench : Bench σ) (name : String) :
    (bench.dropped name).pool.surroundings = bench.pool.surroundings := by
  unfold dropped
  cases bench.instances.get? name <;> rfl

/-! ## Making an instance on a bench -/

variable {left : Surroundings}

theorem instantiate_of_error (hroom : bench.pool.hasRoom) {e : HostError}
    (hfresh : d.freshStore bench.pool.surroundings = (.error e, left)) (name : String) :
    bench.instantiate d name = (Reply.refuse e, { bench with pool := bench.pool.within left }) := by
  unfold instantiate Decoder.instantiate
  rw [if_pos hroom, hfresh]
  rfl

theorem instantiate_of_ok (hroom : bench.pool.hasRoom) {t : Store σ}
    (hfresh : d.freshStore bench.pool.surroundings = (.ok t, left)) (name : String) :
    bench.instantiate d name =
      let freed := { bench with pool := bench.pool.acquired.within left }.dropped name
      (Reply.ok t.memory.size, { freed with instances := freed.instances.put name { store := t } }) := by
  unfold instantiate Decoder.instantiate
  rw [if_pos hroom, hfresh]

theorem instantiate_of_full (hfull : ¬ bench.pool.hasRoom) (name : String) :
    bench.instantiate d name = (Reply.refuse Decoder.noRoom, bench) := by
  unfold instantiate Decoder.instantiate
  rw [if_neg hfull]

namespace Counted

theorem instantiate (h : Counted d 0 bench) (name : String) : Counted d 0 (bench.instantiate d name).2 := by
  by_cases hroom : bench.pool.hasRoom
  · rcases hfresh : d.freshStore bench.pool.surroundings with ⟨e | t, left⟩
    · rw [instantiate_of_error hroom hfresh]
      exact h.within left
    · rw [instantiate_of_ok hroom hfresh]
      -- While the instance that had the name is let go, the new one is not on the bench.
      have hheld : Counted d 1 { bench with pool := bench.pool.acquired.within left } :=
        ⟨h.capacity, h.names, congrArg (· + 1) h.inUse⟩
      exact (hheld.dropped name).put (get?_dropped_self ..) _
  · rw [instantiate_of_full hroom]
    exact h

/-- **One deed.** Whatever is done to a bench, the instances in use are those on it. -/
theorem undergo (h : Counted d 0 bench) (deed : BenchDeed) : Counted d 0 (bench.undergo d deed) := by
  cases deed with
  | instantiate name => exact h.instantiate name
  | drop name => exact h.dropped name
  | call name call =>
    show Counted d 0 (bench.called d name call)
    unfold called
    split
    · exact h.use ..
    · exact h.use ..
  | resolve name function => exact h.use ..
  | change name edit => exact h.change name edit
  | surround now => exact h.within now

/-- Any number of deeds. -/
theorem history (d : Decoder σ) (deeds : List BenchDeed) : Counted d 0 (history d deeds) := by
  have hstart : Counted d 0 (ofDecoder d) := ⟨rfl, List.nodup_nil, rfl⟩
  unfold Bench.history
  generalize ofDecoder d = bench at hstart
  induction deeds generalizing bench with
  | nil => exact hstart
  | cons deed rest ih => exact ih _ (hstart.undergo deed)

/-- There is room unless the instances on the bench are as many as there may be. -/
theorem hasRoom_iff (h : Counted d 0 bench) :
    bench.pool.hasRoom ↔ ∀ limit ∈ d.engine.config.instanceLimit, bench.instances.length < limit := by
  have hinUse := h.inUse
  unfold Pool.hasRoom
  rw [h.capacity]
  cases d.engine.config.instanceLimit with
  | none => simp
  | some limit =>
    simp only [decide_eq_true_eq, Option.mem_some_iff, forall_eq']
    omega

end Counted

/-- **Making an instance ready.** For a guest that can be started in the surroundings as they are, one way of making an
instance ready applies. It says which functions are run, one at most and once at most, and what comes of it. That is what
comes of each instantiation that finds these surroundings and room, whatever was done to the bench before; and there is
room unless as many instances are on the bench as there may be. If the instance becomes ready, it is on the bench with
the store that was left, and no other one changes; if it does not, the bench stays as it was. In both cases the
surroundings are those that were left. -/
theorem instantiate_initialises {around : Surroundings} {s : Store σ}
    (hstart : d.guest.start d.engine.config.pageLimit around = .ok s) :
    ∃ made outcome t,
      (∀ made' outcome' t',
        d.guest.Initialises s made' outcome' t' ↔ made' = made ∧ outcome' = outcome ∧ t' = t) ∧
      d.guest.runs s = made ∧ made.length ≤ 1 ∧
      d.freshStore around = (outcome.map fun () => t, t.surroundings) ∧
      ∀ (deeds : List BenchDeed) (name : String) (bench : Bench σ), history d deeds = bench →
        (bench.pool.hasRoom ↔ ∀ limit ∈ d.engine.config.instanceLimit, bench.instances.length < limit) ∧
        (bench.pool.hasRoom → bench.pool.surroundings = around →
          match outcome with
          | .error e => bench.instantiate d name =
              (Reply.refuse e, { bench with pool := bench.pool.within t.surroundings })
          | .ok () => ∃ later, bench.instantiate d name = (Reply.ok t.memory.size, later) ∧
              later.instances.get? name = some { store := t } ∧ later.pool.surroundings = t.surroundings ∧
              ∀ other ≠ name, later.instances.get? other = bench.instances.get? other) := by
  obtain ⟨made, outcome, t, hready⟩ := d.guest.exists_initialises s
  have hfresh := Decoder.freshStore_of_start hstart hready.makeReady_eq
  refine ⟨made, outcome, t, fun made' outcome' t' => ⟨hready.unique, ?_⟩, hready.runs_eq, hready.length_le, hfresh, ?_⟩
  · rintro ⟨rfl, rfl, rfl⟩
    exact hready
  rintro deeds name bench rfl
  refine ⟨(Counted.history d deeds).hasRoom_iff, ?_⟩
  rintro hroom rfl
  cases outcome with
  | error e => exact instantiate_of_error hroom hfresh name
  | ok =>
    refine ⟨_, instantiate_of_ok hroom hfresh name, Named.get?_put_self .., surroundings_dropped ..,
      fun other hother => ?_⟩
    exact (Named.get?_put_of_ne _ _ hother).trans (get?_dropped _ hother)

/-- A module whose `_initialize` takes an argument. Its `_start` reads what there is on standard input, writes to the
memory how much that was, and exits with status zero. -/
def commander : Guest Nat where
  exports := [("memory", .memory), ("_initialize", .function ⟨[.i32], []⟩), ("_start", .function ⟨[], []⟩)]
  initialPages := 0
  start _ surroundings := .ok ⟨Memory.tiny, 1, 0, surroundings⟩
  invoke name _ := fun s =>
    if name = "_start" then
      let size := s.surroundings.input.length
      (.error (.exit 0), ⟨s.memory.patch 0 [size.toUInt8], s.pageLimit, s.globals + 1,
        { s.surroundings with input := [] }⟩)
    else (.error .unreachable, s)

/-- A decoder whose module is the commander, with a place for one instance. -/
def commanding : Decoder Nat where
  engine := { config := { poolingAllocator := true, maxInstances := 1 }, cacheDir := none }
  module := { contentHash := "", guest := commander }

/-- After an instance that was given up, and another one for which there was no room, three bytes are typed: the
commander reads them all and exits cleanly, and its instance is on the bench with what `_start` wrote and counted. -/
theorem commanding_instantiate_initialises :
    let bench := history commanding [.instantiate "a", .instantiate "b", .drop "a", .surround { input := [1, 2, 3] }]
    commander.runs ⟨Memory.tiny, 1, 0, { input := [1, 2, 3] }⟩ = [("_start", [])] ∧
    ∃ later, bench.instantiate commanding "c" = (Reply.ok 64, later) ∧
      later.instances.get? "c" = some { store := ⟨Memory.tiny.patch 0 [3], 1, 1, {}⟩ } := by
  obtain ⟨made, outcome, t, hways, hruns, -, -, hbench⟩ :=
    instantiate_initialises (d := commanding) (s := ⟨Memory.tiny, 1, 0, { input := [1, 2, 3] }⟩) rfl
  have hready : commander.Initialises ⟨Memory.tiny, 1, 0, { input := [1, 2, 3] }⟩ [("_start", [])] (.ok ())
      ⟨Memory.tiny.patch 0 [3], 1, 1, {}⟩ :=
    .commandExited rfl (by decide) rfl rfl
  obtain ⟨rfl, rfl, rfl⟩ := (hways _ _ _).mp hready
  obtain ⟨hroom, hlater⟩ :=
    hbench [.instantiate "a", .instantiate "b", .drop "a", .surround { input := [1, 2, 3] }] "c" _ rfl
  obtain ⟨later, hinstantiate, hget, -⟩ := hlater (hroom.mpr (by decide)) rfl
  exact ⟨hruns, later, hinstantiate, hget⟩

/-- A module whose `_initialize` reads a byte from standard input, and traps where there is none. -/
def greedy : Guest Unit where
  exports := [("memory", .memory), ("_initialize", .function ⟨[], []⟩)]
  initialPages := 0
  start _ surroundings := .ok ⟨Memory.tiny, 1, (), surroundings⟩
  invoke _ _ := fun s =>
    match s.surroundings.input with
    | [] => (.error .unreachable, s)
    | _ :: rest => (.ok [], s.within { s.surroundings with input := rest })

/-- A decoder whose module is the greedy one, with places for any number of instances. -/
def feeding : Decoder Unit where
  engine := { config := {}, cacheDir := none }
  module := { contentHash := "", guest := greedy }

/-- **What instances share can be noticed.** With one byte on standard input a greedy instance becomes ready, but not
when another one was made before and has read the byte; and a commander becomes ready, but not while another one has
the only place. -/
theorem instantiate_noticed :
    (((history feeding [.surround { input := [0] }]).instantiate feeding "b").1 = Reply.ok 64 ∧
      ((history feeding [.surround { input := [0] }, .instantiate "a"]).instantiate feeding "b").1 =
        Reply.refuse (.trap ("_initialize: " ++ Trap.unreachable.message))) ∧
    ((history commanding []).instantiate commanding "b").1 = Reply.ok 64 ∧
      ((history commanding [.instantiate "a"]).instantiate commanding "b").1 = Reply.refuse Decoder.noRoom :=
  ⟨⟨rfl, rfl⟩, rfl, rfl⟩

end Bench

end DecoderHost

import DecoderHost.Proofs.StandIn.Engine

/-!
# Inputs put together

An input that is put behind another is decoded as it would be alone, only further on, if nothing of the other
is left undecoded. If something is left, decoding stops there whatever comes behind; only the lone first byte
of a `syscall` waits for what comes next.
-/

namespace DecoderHost

variable {σ : Type}

/-- The disassembler after inputs have been decoded on it in turn, panics or not. -/
def Disassembler.afterDecodes (d : Decoder σ) (steps : Nat) (codes : List (List UInt8)) (x : Disassembler σ) :
    Disassembler σ :=
  codes.foldl (fun x code => (x.disassemble d steps code).2) x

/-- The instruction of an input that begins further on in another. -/
def Instruction.moved (distance : Nat) (i : Instruction) : Instruction :=
  { i with offset := UInt64.ofNat distance + i.offset }

/-- Where an instruction stands does not show in its line. -/
@[simp] theorem Instruction.line_moved (distance : Nat) (i : Instruction) : (i.moved distance).line = i.line :=
  rfl

/-- A disassembly behind instructions that were decoded before it. -/
def Disassembly.behind (before : List Instruction) (d : Disassembly) : Disassembly :=
  { d with instructions := before ++ d.instructions }

namespace StandIn

variable {dialect : Dialect} {offset : Nat} {a b code : List UInt8}

/-! ## The front of two inputs -/

/-- What cannot be read for want of a second byte. -/
def IsCut (dialect : Dialect) (code : List UInt8) : Prop := dialect = .x86 ∧ code = [0x0F]

/-- An instruction at the front stands there whatever comes behind. -/
theorem front_append_of_instruction {length : Nat} {mnemonic operands : String}
    (h : front dialect a = .instruction length mnemonic operands) (b : List UInt8) :
    front dialect (a ++ b) = .instruction length mnemonic operands := by
  rw [← h]
  cases a with
  | nil => cases dialect <;> cases h
  | cons byte rest =>
    cases dialect with
    | arm => rfl
    | x86 =>
      -- The second byte of a `syscall` is there already.
      have hrest : byte = 0x0F → rest ≠ [] := by
        rintro rfl rfl
        cases h
      simp only [front, List.cons_append, frontX86]
      by_cases hbyte : byte = 0x0F
      · have hboth : ¬ (rest ++ b = []) := by simp [hrest hbyte]
        rw [if_neg hboth, if_neg (hrest hbyte)]
      · rw [if_neg hbyte, if_neg hbyte]

/-- What cannot be read cannot be read whatever comes behind, unless a second byte was wanting. -/
theorem front_append_of_nothing (h : front dialect a = .nothing) (hsome : a ≠ []) (hcut : ¬ IsCut dialect a)
    (b : List UInt8) : front dialect (a ++ b) = .nothing := by
  rw [← h]
  cases a with
  | nil => exact absurd rfl hsome
  | cons byte rest =>
    cases dialect with
    | arm => rfl
    | x86 =>
      have hbyte : byte ≠ 0x0F := by
        rintro rfl
        have hrest : rest ≠ [] := by
          rintro rfl
          exact hcut ⟨rfl, rfl⟩
        simp [front, frontX86, hrest] at h
      simp only [front, List.cons_append, frontX86, if_neg hbyte]

/-! ## The reference by the front -/

theorem reference_of_nothing (h : front dialect code = .nothing) :
    reference dialect offset code = some ⟨[], code.length⟩ := by
  rw [reference]
  split <;> simp_all

theorem reference_of_trap (h : front dialect code = .trap) : reference dialect offset code = none := by
  rw [reference]
  split <;> simp_all

theorem reference_of_instruction {length : Nat} {mnemonic operands : String}
    (h : front dialect code = .instruction length mnemonic operands) :
    reference dialect offset code = (reference dialect (offset + length) (code.drop length)).map
      (prepend offset mnemonic operands) := by
  rw [reference]
  split <;> simp_all

/-- An input is disassembled alike wherever it begins. -/
theorem reference_moved (dialect : Dialect) (distance offset : Nat) (code : List UInt8) :
    reference dialect (distance + offset) code =
      (reference dialect offset code).map fun d =>
        { d with instructions := d.instructions.map (Instruction.moved distance) } := by
  fun_induction reference dialect offset code with
  | case1 offset code hfront => rw [reference_of_nothing hfront]; rfl
  | case2 offset code hfront => rw [reference_of_trap hfront]; rfl
  | case3 offset code length mnemonic operands hfront ih =>
    rw [reference_of_instruction hfront, Nat.add_assoc, ih, Option.map_map, Option.map_map]
    congr 1
    funext d
    simp [prepend, Instruction.moved, UInt64.ofNat_add]

/-! ## The reference on two inputs -/

/-- What stands behind an input that is decoded to its end is decoded as well. -/
theorem reference_append_of_complete {d : Disassembly} (h : reference dialect offset a = some d)
    (hd : d.remaining = 0) (b : List UInt8) :
    reference dialect offset (a ++ b) =
      (reference dialect (offset + a.length) b).map (Disassembly.behind d.instructions) := by
  fun_induction reference dialect offset a generalizing d with
  | case1 offset a hfront =>
    cases h
    obtain rfl : a = [] := List.eq_nil_of_length_eq_zero hd
    show reference dialect offset b = (reference dialect offset b).map id
    rw [Option.map_id_fun, id]
  | case2 => cases h
  | case3 offset a length mnemonic operands hfront ih =>
    obtain ⟨rest, hrest, rfl⟩ := Option.map_eq_some_iff.mp h
    obtain ⟨-, hlength⟩ := length_front hfront
    have hreached : offset + length + (a.drop length).length = offset + a.length := by
      rw [List.length_drop]
      omega
    rw [reference_of_instruction (front_append_of_instruction hfront b), List.drop_append_of_le_length hlength,
      ih hrest hd, hreached, Option.map_map]
    rfl

/-- What stands behind an input that is not decoded to its end is left with the end, unless a second byte was
wanting. -/
theorem reference_append_of_remaining {d : Disassembly} (h : reference dialect offset a = some d)
    (hd : 0 < d.remaining) (hcut : ¬ IsCut dialect (a.drop (a.length - d.remaining))) (b : List UInt8) :
    reference dialect offset (a ++ b) = some { d with remaining := d.remaining + b.length } := by
  fun_induction reference dialect offset a generalizing d with
  | case1 offset a hfront =>
    cases h
    rw [Nat.sub_self, List.drop_zero] at hcut
    rw [reference_of_nothing (front_append_of_nothing hfront (List.ne_nil_of_length_pos hd) hcut b),
      List.length_append]
  | case2 => cases h
  | case3 offset a length mnemonic operands hfront ih =>
    obtain ⟨rest, hrest, rfl⟩ := Option.map_eq_some_iff.mp h
    obtain ⟨-, hlength⟩ := length_front hfront
    have hleft := remaining_le hrest
    -- What is left of the rest is what is left of the whole.
    have hend : (a.drop length).drop ((a.drop length).length - rest.remaining) =
        a.drop (a.length - rest.remaining) := by
      rw [List.length_drop] at hleft ⊢
      rw [List.drop_drop]
      congr 1
      omega
    rw [reference_of_instruction (front_append_of_instruction hfront b), List.drop_append_of_le_length hlength,
      ih hrest hd (by rwa [hend])]
    rfl

/-! ## Engines -/

variable {d : Decoder Globals} {arch : Arch} {mode : Mode} {pool : Pool} {steps : Nat}

/-- An engine that was idle is idle after any decodes. -/
theorem IdleFor.afterDecodes (hd : d.guest = guest) {session : Session Globals} (h : IdleFor arch session)
    (mode : Mode) (hsteps : capacity < steps) (codes : List (List UInt8)) :
    ∃ session', IdleFor arch session' ∧
      Disassembler.afterDecodes d steps codes ⟨arch, mode, some session⟩ = ⟨arch, mode, some session'⟩ := by
  induction codes generalizing session with
  | nil => exact ⟨session, h, rfl⟩
  | cons code rest ih =>
    obtain ⟨next, hnext, -, hdecode⟩ := h.disassemble hd mode hsteps code
    obtain ⟨last, hlast, hrest⟩ := ih hnext
    refine ⟨last, hlast, ?_⟩
    rw [← hrest]
    simp only [Disassembler.afterDecodes, List.foldl_cons, hdecode]

/-- Every session on the stand-in answers an input that there is room for as the reference does. -/
theorem outcome_afterDecodes (hd : d.guest = guest) (hsteps : capacity < steps) {x : Disassembler Globals}
    (hopen : (Disassembler.open d arch mode pool).1.outcome = .ok x) (earlier : List (List UInt8)) :
    ∀ code : List UInt8, code.length ≤ capacity →
      ((Disassembler.afterDecodes d steps earlier x).disassemble d steps code).1.outcome =
        match reference (dialectFor arch) 0 code with
        | some decoded => .ok decoded
        | none => .error (.stopped fault) := by
  intro code hcode
  have haccepts : Accepts arch mode :=
    Decidable.byContradiction fun hnot => open_of_not_accepts hd hnot x hopen
  have hroom : pool.hasRoom := Decidable.byContradiction fun hfull => by
    rw [Disassembler.open, Decoder.instantiate, if_neg hfull] at hopen
    cases hopen
  obtain ⟨session, hidle, hopened⟩ := open_of_accepts hd haccepts hroom
  obtain rfl : ⟨arch, mode, some session⟩ = x := by
    rw [hopened] at hopen
    exact Except.ok.inj hopen
  obtain ⟨session', hidle', hreached⟩ := hidle.afterDecodes hd mode hsteps earlier
  obtain ⟨_, _, _, hdecode⟩ := hidle'.disassemble hd mode hsteps code
  rw [hreached, hdecode, expected, answer_of_le _ hcode]
  cases reference (dialectFor arch) 0 code <;> rfl

/-- **Inputs put together are decoded one after the other.** On every session on the stand-in, if an input is
decoded to its end, then with another behind it there is a panic just where the other alone is one, and else
the instructions of both, those of the second moved on. If something of the first is left, then nothing of the
second is decoded, unless the first was cut in its last instruction. -/
theorem disassemble_append (hd : d.guest = guest) (hsteps : 61360 < steps) {opened x : Disassembler Globals}
    (hopen : (Disassembler.open d arch mode pool).1.outcome = .ok opened) (earlier : List (List UInt8))
    (hx : x = Disassembler.afterDecodes d steps earlier opened) (a b : List UInt8)
    (hfits : a.length + b.length ≤ 61360)
    (hcalm : ∀ p, (x.disassemble d steps a).1.outcome ≠ .error (.stopped (.panic p))) :
    ∃ da, (x.disassemble d steps a).1.outcome = .ok da ∧
      (da.remaining = 0 →
        (∀ failure, (x.disassemble d steps (a ++ b)).1.outcome = .error failure ↔
          (x.disassemble d steps b).1.outcome = .error failure) ∧
        ∀ db, (x.disassemble d steps b).1.outcome = .ok db →
          ∃ dab, (x.disassemble d steps (a ++ b)).1.outcome = .ok dab ∧
            dab = ⟨da.instructions ++ db.instructions.map (Instruction.moved a.length), db.remaining⟩ ∧
            dab.lines = da.lines ++ db.lines) ∧
      (0 < da.remaining → ¬ (arch = .x86 ∧ a.drop (a.length - da.remaining) = [0x0F]) →
        (x.disassemble d steps (a ++ b)).1.outcome = .ok ⟨da.instructions, da.remaining + b.length⟩) := by
  have houtcome := outcome_afterDecodes hd hsteps hopen earlier
  rw [← hx] at houtcome
  have hcapacity : capacity = 61360 := rfl
  have ha := houtcome a (by omega)
  have hb := houtcome b (by omega)
  have hab := houtcome (a ++ b) (by rw [List.length_append]; omega)
  cases hreference : reference (dialectFor arch) 0 a with
  | none =>
    rw [hreference] at ha
    exact absurd ha (hcalm _)
  | some da =>
    rw [hreference] at ha
    refine ⟨da, ha, fun hdone => ?_, fun hleft hcut => ?_⟩
    · have hmoved := reference_moved (dialectFor arch) a.length 0 b
      rw [reference_append_of_complete hreference hdone, Nat.zero_add, ← Nat.add_zero a.length, hmoved] at hab
      cases hsecond : reference (dialectFor arch) 0 b with
      | none =>
        rw [hsecond] at hab hb
        rw [hab, hb]
        exact ⟨fun _ => Iff.rfl, fun _ h => by cases h⟩
      | some db =>
        simp only [hsecond, Option.map_some] at hab hb
        rw [hab, hb]
        refine ⟨fun _ => iff_of_false (by simp) (by simp), fun _ h => ?_⟩
        cases h
        refine ⟨_, rfl, rfl, ?_⟩
        simp [Disassembly.lines, Disassembly.behind, Function.comp_def]
    · have hcut : ¬ IsCut (dialectFor arch) (a.drop (a.length - da.remaining)) := by
        rintro ⟨hdialect, hlast⟩
        refine hcut ⟨?_, hlast⟩
        unfold dialectFor at hdialect
        split at hdialect
        · assumption
        · cases hdialect
      rw [hab, reference_append_of_remaining hreference hleft hcut]

/-- A `syscall` and, behind it, a `nop` and a byte that cannot be read, after a trap. -/
theorem disassemble_append_nop :
    ∃ x, (Disassembler.open decoder .x86 .mode64 { capacity := none }).1.outcome = .ok x ∧
      ((Disassembler.afterDecodes decoder 70000 [[0xCC]] x).disassemble decoder 70000
        ([0x0F, 0x05] ++ [0x90, 0x06])).1.outcome = .ok ⟨[⟨0, "syscall", ""⟩, ⟨2, "nop", ""⟩], 1⟩ := by
  have harch : Accepts .x86 .mode64 := by decide
  have hroom : Pool.hasRoom { capacity := none } := rfl
  have hsteps : 61360 < 70000 := by decide
  obtain ⟨session, -, hopened⟩ := open_of_accepts (d := decoder) rfl harch hroom
  have hopen := congrArg (fun result => result.1.outcome) hopened
  refine ⟨_, hopen, ?_⟩
  have houtcome := outcome_afterDecodes rfl hsteps hopen [[0xCC]]
  have ha := houtcome [0x0F, 0x05] (by decide)
  have hb := houtcome [0x90, 0x06] (by decide)
  rw [show reference (dialectFor .x86) 0 [0x0F, 0x05] = some ⟨[⟨0, "syscall", ""⟩], 0⟩ by decide +kernel] at ha
  rw [show reference (dialectFor .x86) 0 [0x90, 0x06] = some ⟨[⟨0, "nop", ""⟩], 1⟩ by decide +kernel] at hb
  obtain ⟨da, hda, hcomplete, -⟩ := disassemble_append (d := decoder) rfl hsteps hopen [[0xCC]] rfl
    [0x0F, 0x05] [0x90, 0x06] (by decide) fun _ h => by cases ha.symm.trans h
  cases ha.symm.trans hda
  obtain ⟨_, hdab, rfl, -⟩ := (hcomplete rfl).2 _ hb
  exact hdab

end StandIn

end DecoderHost

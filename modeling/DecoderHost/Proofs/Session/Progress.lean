import DecoderHost.Proofs.Session.Bound
import DecoderHost.Proofs.Session.Cooperation
import DecoderHost.Proofs.Session.Release
import Mathlib.Algebra.GroupWithZero.Nat

/-!
# Progress of a decode

Nothing in the host bounds the rounds of a decode: what is left to decode stands in the guest's memory, and the guest
itself counts it down. A guest that cooperates takes at least one byte and at most what is left whenever it decodes an
instruction. So a decode ends after at most as many rounds as there are bytes, and its offsets and what remains account
for every byte of the input. The main statement is `disassemble_progresses`.

The rounds of one decode are a `Walk` along its input. What holds of the answer is read off the walk, and the loop is
run along it.
-/

namespace DecoderHost

variable {σ : Type}

/-! ## What comes of it -/

/-- A call decoded an instruction of `k` bytes. Both slots moved by as many, without wrapping round. -/
structure Call.Advances (cursor : UInt32) (c : Call) (k : Nat) : Prop where
  found : ∃ number, c.returned? = some number ∧ number ≠ 0
  pos : 0 < k
  slots : ∃ left offset left' offset', c.before.HasSlots cursor left offset ∧
    c.after.HasSlots cursor left' offset' ∧ left'.toNat + k = left.toNat ∧ offset'.toNat = offset.toNat + k

/-- The attempts to decode an instruction among calls. -/
def Session.attemptsOf (calls : List Call) : List Call := calls.filter fun c => c.name == "cs_disasm_iter"

/-- **A decode accounts for its input.** Its instructions have these lengths and stand one after another from the
beginning of the input, and what they leave remains. -/
structure Disassembly.Accounts (d : Disassembly) (length : Nat) (lengths : List Nat) : Prop where
  count : d.instructions.length = lengths.length
  count_le : d.instructions.length ≤ length
  first : ∀ i ∈ d.instructions.head?, i.offset = 0
  next : ∀ n i j k, d.instructions[n]? = some i → d.instructions[n + 1]? = some j → lengths[n]? = some k →
    j.offset.toNat = i.offset.toNat + k
  increasing : d.instructions.Pairwise fun i j => i.offset < j.offset
  below : ∀ i ∈ d.instructions, i.offset.toNat < length
  total : lengths.sum + d.remaining = length
  complete : d.isComplete ↔ lengths.sum = length

/-- The rounds of a loop that came to its end: calls, the lengths of what they decoded, and the instructions, from an
offset on with some bytes left, up to what remains. -/
inductive Walk (cursor : UInt32) : Nat → Nat → List Call → List Nat → List Instruction → Nat → Prop
  | done {offset left : Nat} : Walk cursor offset left [] [] [] left
  | step {offset left rest k : Nat} {c : Call} {i : Instruction} {calls : List Call} {lengths : List Nat}
    {instructions : List Instruction} (hadvances : c.Advances cursor k) (hoffset : i.offset.toNat = offset)
    (h : Walk cursor (offset + k) left calls lengths instructions rest) :
    Walk cursor offset (left + k) (c :: calls) (k :: lengths) (i :: instructions) rest

namespace Walk

variable {cursor : UInt32} {offset left rest : Nat} {calls : List Call} {lengths : List Nat}
  {instructions : List Instruction}

theorem advances (h : Walk cursor offset left calls lengths instructions rest) :
    List.Forall₂ (Call.Advances cursor) calls lengths := by
  induction h with
  | done => exact .nil
  | step hadvances _ _ ih => exact .cons hadvances ih

theorem length_eq (h : Walk cursor offset left calls lengths instructions rest) :
    instructions.length = lengths.length := by
  induction h with
  | done => rfl
  | step _ _ _ ih => simp [ih]

theorem total (h : Walk cursor offset left calls lengths instructions rest) :
    lengths.sum + rest = left := by
  induction h with
  | done => simp
  | step _ _ _ ih =>
    rw [List.sum_cons]
    omega

theorem length_le (h : Walk cursor offset left calls lengths instructions rest) :
    instructions.length ≤ left := by
  induction h with
  | done => simp
  | step hadvances _ _ ih =>
    have hpos := hadvances.pos
    rw [List.length_cons]
    omega

/-- The first instruction starts at the offset. -/
theorem first (h : Walk cursor offset left calls lengths instructions rest) :
    ∀ i ∈ instructions.head?, i.offset.toNat = offset := by
  cases h with
  | done => simp
  | step _ hoffset _ =>
    intro i hi
    rw [← Option.some.inj hi, hoffset]

theorem bounds (h : Walk cursor offset left calls lengths instructions rest) :
    ∀ i ∈ instructions, offset ≤ i.offset.toNat ∧ i.offset.toNat < offset + left := by
  induction h with
  | done => simp
  | step hadvances hoffset _ ih =>
    have hpos := hadvances.pos
    refine List.forall_mem_cons.mpr ⟨by omega, fun i hi => ?_⟩
    have hi := ih i hi
    omega

theorem next (h : Walk cursor offset left calls lengths instructions rest) :
    ∀ (n : Nat) (i j : Instruction) (k : Nat), instructions[n]? = some i → instructions[n + 1]? = some j →
      lengths[n]? = some k → j.offset.toNat = i.offset.toNat + k := by
  induction h with
  | done => simp
  | step _ hoffset hrest ih =>
    intro n i j k hi hj hk
    cases n with
    | zero =>
      simp only [List.getElem?_cons_zero, Option.some.injEq] at hi hk
      simp only [List.getElem?_cons_succ] at hj
      rw [← hi, ← hk, hoffset]
      exact hrest.first j (by rw [List.head?_eq_getElem?]; exact hj)
    | succ n => exact ih n i j k (by simpa using hi) (by simpa using hj) (by simpa using hk)

theorem increasing (h : Walk cursor offset left calls lengths instructions rest) :
    instructions.Pairwise fun i j => i.offset < j.offset := by
  induction h with
  | done => exact .nil
  | step hadvances hoffset hrest ih =>
    have hpos := hadvances.pos
    refine .cons (fun j hj => ?_) ih
    have hj := (hrest.bounds j hj).1
    rw [UInt64.lt_iff_toNat_lt]
    omega

/-- A walk from the beginning of an input accounts for all of it. -/
theorem accounts {length : Nat} (h : Walk cursor 0 length calls lengths instructions rest) :
    (Disassembly.mk instructions rest).Accounts length lengths where
  count := h.length_eq
  count_le := h.length_le
  first i hi := UInt64.toNat_inj.mp (h.first i hi)
  next := h.next
  increasing := h.increasing
  below i hi := by
    have hbounds := (h.bounds i hi).2
    omega
  total := h.total
  complete := by
    have htotal := h.total
    simp only [Disassembly.isComplete, beq_iff_eq]
    omega

end Walk

/-! ## A round -/

namespace Session

variable {g : Guest σ} {handle : UInt32} {code : List UInt8} {s : Store σ}

theorem attemptsOf_append (calls calls' : List Call) :
    attemptsOf (calls ++ calls') = attemptsOf calls ++ attemptsOf calls' := List.filter_append ..

theorem attemptsOf_of_attempt {c : Call} {cursor record : UInt32}
    (h : c.request = attempt handle cursor record) : attemptsOf [c] = [c] := by
  have hname : c.name = "cs_disasm_iter" := Call.name_of_request h
  simp [attemptsOf, hname]

theorem attemptsOf_of_other {c : Call} {name : String} {arguments : List UInt64}
    (h : c.request = (name, arguments)) (hname : name ≠ "cs_disasm_iter") : attemptsOf [c] = [] := by
  have hc : c.name = name := Call.name_of_request h
  simp [attemptsOf, hc, hname]

namespace Setting

variable {x : Setting g handle code s}

theorem attempt_lt (x : Setting g handle code s) :
    ∀ a ∈ (attempt handle x.cursor x.record).2, a.toNat < 4294967296 :=
  Guest.words_lt [handle, x.cursor, x.cursor + 4, x.cursor + 8, x.record]

/-- A number of bytes that fits what is left is moved from one slot to the other without wrapping round. -/
theorem moved_toNat {left k : UInt32} {offset : UInt64} (hk : k ≤ left)
    (hsum : offset.toNat + left.toNat < 4294967296) :
    (left - k).toNat + k.toNat = left.toNat ∧ (offset + k.toUInt64).toNat = offset.toNat + k.toNat := by
  have hle : k.toNat ≤ left.toNat := UInt32.le_iff_toNat_le.mp hk
  rw [UInt32.toNat_sub_of_le _ _ hk, UInt64.toNat_add, UInt32.toNat_toUInt64]
  omega

/-- The scenes in which a cooperating guest is asked for an instruction, by what is in its slots. -/
structure At (x : Setting g handle code s) (t : Scene (σ × List Call)) (left : UInt32) (offset : UInt64) :
    Prop where
  reached : x.Reaches (t.store.map Prod.fst)
  slots : t.store.memory.HasSlots x.cursor left offset

end Setting

theorem run_csDisasmIter {g : Guest σ} {handle cursor record : UInt32} {number : UInt64} {t u : Scene σ}
    (hrun : (g.call "cs_disasm_iter" (attempt handle cursor record).2).run t = (.ok number, u)) :
    (g.csDisasmIter handle cursor (cursor + 4) (cursor + 8) record).run t = (.ok (number != 0), u) :=
  Host.run_bind_of_ok hrun

/-- An attempt without result ends the loop. -/
theorem run_decodeAll_last {g : Guest σ} {handle cursor record : UInt32} {offset : UInt64} {t u : Scene σ}
    (hoffset : t.store.memory.readWord64 (cursor + 8) = .ok offset)
    (hrun : (g.call "cs_disasm_iter" (attempt handle cursor record).2).run t = (.ok 0, u)) (steps : Nat)
    (decoded : Array Instruction) :
    (decodeAll g handle ⟨cursor, cursor + 4, cursor + 8⟩ record (steps + 1) decoded).run t = (.ok decoded, u) := by
  have hlook : (Host.inspect .cursor fun m => m.readWord64 (cursor + 8)).run t = (.ok offset, t) :=
    Host.inspect_eq_ok.mpr ⟨hoffset, rfl⟩
  rw [decodeAll, Host.run_bind_of_ok hlook, Host.run_bind_of_ok (run_csDisasmIter hrun)]
  rfl

/-- An attempt with a result, and the two texts, bring the loop to its next round. -/
theorem run_decodeAll_found {g : Guest σ} {handle cursor record mnemonic operands : UInt32}
    {offset number : UInt64} {t u v w : Scene σ} {text text' : List UInt8}
    (hoffset : t.store.memory.readWord64 (cursor + 8) = .ok offset)
    (hrun : (g.call "cs_disasm_iter" (attempt handle cursor record).2).run t = (.ok number, u))
    (hfound : number ≠ 0) (hmnemonic : (g.csMnemonic record).run u = (.ok mnemonic, v))
    (hoperands : (g.csOperands record).run v = (.ok operands, w))
    (htext : w.store.memory.HasText mnemonic.toNat text)
    (htext' : w.store.memory.HasText operands.toNat text') (steps : Nat) (decoded : Array Instruction) :
    ∃ i : Instruction, i.offset = offset ∧
      (decodeAll g handle ⟨cursor, cursor + 4, cursor + 8⟩ record (steps + 1) decoded).run t =
        (decodeAll g handle ⟨cursor, cursor + 4, cursor + 8⟩ record steps (decoded.push i)).run w := by
  have hlook : (Host.inspect .cursor fun m => m.readWord64 (cursor + 8)).run t = (.ok offset, t) :=
    Host.inspect_eq_ok.mpr ⟨hoffset, rfl⟩
  refine ⟨⟨offset, String.ofList (Text.Utf8.repair text), String.ofList (Text.Utf8.repair text')⟩, rfl, ?_⟩
  rw [decodeAll, Host.run_bind_of_ok hlook, Host.run_bind_of_ok (run_csDisasmIter hrun),
    if_pos (bne_iff_ne.mpr hfound), Host.run_bind_of_ok hmnemonic, Host.run_bind_of_ok hoperands,
    Host.run_bind_of_ok (run_guestText_of_hasText htext), Host.run_bind_of_ok (run_guestText_of_hasText htext')]

namespace Setting

variable {x : Setting g handle code s}

/-- A cooperating guest is asked for an instruction and has none. -/
theorem run_last (hx : x.Cooperates) {t : Scene (σ × List Call)} {left : UInt32} {offset : UInt64}
    (hat : x.At t left offset) {u : Store σ} (hattempt : x.Attempts (t.store.map Prod.fst) 0 u) (steps : Nat)
    (decoded : Array Instruction) :
    ∃ c v, c.returned? = some 0 ∧ attemptsOf v.calls = attemptsOf t.calls ++ [c] ∧
      v.store.memory.HasSlots x.cursor left offset ∧
      (decodeAll g.recorded handle ⟨x.cursor, x.cursor + 4, x.cursor + 8⟩ x.record (steps + 1) decoded).run t =
        (.ok decoded, v) := by
  obtain ⟨c, v, hmade, hrequest, hreturned, rfl, hrun⟩ := hattempt.run_call_recorded x.attempt_lt
  refine ⟨c, v, hreturned, ?_, hx.stays _ _ hat.reached hattempt left offset hat.slots,
    run_decodeAll_last hat.slots.offset hrun steps decoded⟩
  rw [hmade.calls, attemptsOf_append, attemptsOf_of_attempt hrequest]

/-- A cooperating guest is asked for an instruction and decodes one. -/
theorem run_round (hx : x.Cooperates) {t : Scene (σ × List Call)} {left : UInt32} {offset : UInt64}
    (hat : x.At t left offset) (hsum : offset.toNat + left.toNat < 4294967296) {number : UInt64} {u : Store σ}
    (hattempt : x.Attempts (t.store.map Prod.fst) number u) (hfound : number ≠ 0) (steps : Nat)
    (decoded : Array Instruction) :
    ∃ (c : Call) (k left' : UInt32) (offset' : UInt64) (i : Instruction) (w : Scene (σ × List Call)),
      c.Advances x.cursor k.toNat ∧ left'.toNat + k.toNat = left.toNat ∧
      offset'.toNat = offset.toNat + k.toNat ∧ i.offset = offset ∧
      attemptsOf w.calls = attemptsOf t.calls ++ [c] ∧ x.At w left' offset' ∧
      (decodeAll g.recorded handle ⟨x.cursor, x.cursor + 4, x.cursor + 8⟩ x.record (steps + 1) decoded).run t =
        (decodeAll g.recorded handle ⟨x.cursor, x.cursor + 4, x.cursor + 8⟩ x.record steps
          (decoded.push i)).run w := by
  obtain ⟨c, u', hmade, hrequest, hreturned, rfl, hrun⟩ := hattempt.run_call_recorded x.attempt_lt
  obtain ⟨k, hpos, hk, hslots⟩ := hx.moves _ _ _ hat.reached hattempt hfound left offset hat.slots
  obtain ⟨mnemonic, operands, w, hdescribes, hkeeps, ⟨text, htext⟩, ⟨text', htext'⟩⟩ :=
    hx.describes _ _ _ hat.reached hattempt hfound
  have hreached : x.Reaches w := .next hat.reached hattempt hfound hdescribes
  obtain ⟨v, hmnemonic, hoperands⟩ := hdescribes
  obtain ⟨d, v', hmadeMnemonic, hrequestMnemonic, rfl, hrunMnemonic⟩ :=
    hmnemonic.run_call_recorded (Guest.words_lt [x.record])
  obtain ⟨e, w', hmadeOperands, hrequestOperands, rfl, hrunOperands⟩ :=
    hoperands.run_call_recorded (Guest.words_lt [x.record])
  obtain ⟨hleft, hoffset⟩ := moved_toNat hk hsum
  have hadvances : c.Advances x.cursor k.toNat := by
    refine ⟨⟨number, hreturned, hfound⟩, UInt32.le_iff_toNat_le.mp hpos, left, offset, left - k,
      offset + k.toUInt64, ?_, ?_, hleft, hoffset⟩
    · rw [hmade.before]
      exact hat.slots
    · rw [hmade.after]
      exact hslots
  obtain ⟨i, hi, hnext⟩ := run_decodeAll_found hat.slots.offset hrun hfound hrunMnemonic hrunOperands htext
    htext' steps decoded
  refine ⟨c, k, left - k, offset + k.toUInt64, i, w', hadvances, hleft, hoffset, hi, ?_,
    ⟨hreached, hkeeps _ _ hslots⟩, hnext⟩
  rw [hmadeOperands.calls, hmadeMnemonic.calls, hmade.calls, attemptsOf_append, attemptsOf_append,
    attemptsOf_append, attemptsOf_of_attempt hrequest, attemptsOf_of_other hrequestMnemonic (by decide),
    attemptsOf_of_other hrequestOperands (by decide), List.append_nil, List.append_nil]

/-- **The loop comes to its end.** With a cooperating guest it takes no more rounds than there are bytes left. -/
theorem run_decodeAll (hx : x.Cooperates) (steps : Nat) {t : Scene (σ × List Call)} {left : UInt32}
    {offset : UInt64} (hat : x.At t left offset) (hsum : offset.toNat + left.toNat < 4294967296)
    (hsteps : left.toNat < steps) (decoded : Array Instruction) :
    ∃ (calls : List Call) (last : Call) (lengths : List Nat) (all : Array Instruction)
      (instructions : List Instruction) (rest : UInt32) (v : Scene (σ × List Call)),
      Walk x.cursor offset.toNat left.toNat calls lengths instructions rest.toNat ∧
      last.returned? = some 0 ∧ attemptsOf v.calls = attemptsOf t.calls ++ calls ++ [last] ∧
      v.store.memory.readWord32 (x.cursor + 4) = .ok rest ∧ all.toList = decoded.toList ++ instructions ∧
      (decodeAll g.recorded handle ⟨x.cursor, x.cursor + 4, x.cursor + 8⟩ x.record steps decoded).run t =
        (.ok all, v) := by
  -- Each round takes at least one byte off those left, and one step off the bound.
  induction steps generalizing t left offset decoded with
  | zero => omega
  | succ steps ih =>
    obtain ⟨number, u, hattempt⟩ := hx.attempts _ hat.reached
    by_cases hzero : number = 0
    · subst hzero
      obtain ⟨last, v, hlast, hcalls, hslots, hrun⟩ := run_last hx hat hattempt steps decoded
      exact ⟨[], last, [], decoded, [], left, v, .done, hlast, by simpa using hcalls, hslots.left, by simp, hrun⟩
    · obtain ⟨c, k, left', offset', i, w, hadvances, hleft, hoffset, hi, hcalls, hat', hnext⟩ :=
        run_round hx hat hsum hattempt hzero steps decoded
      have hpos := hadvances.pos
      obtain ⟨calls, last, lengths, all, instructions, rest, v, hwalk, hlast, hmore, hrest, hall, hrun⟩ :=
        ih hat' (by omega) (by omega) (decoded.push i)
      refine ⟨c :: calls, last, k.toNat :: lengths, all, i :: instructions, rest, v, ?_, hlast, ?_, hrest, ?_,
        hnext.trans hrun⟩
      · rw [← hleft]
        exact .step hadvances (congrArg UInt64.toNat hi) (hoffset ▸ hwalk)
      · rw [hmore, hcalls]
        simp
      · rw [hall]
        simp

end Setting

/-! ## The whole decode -/

namespace Setting

variable {x : Setting g handle code s}

theorem cursor_lt (x : Setting g handle code s) : x.cursor.toNat + 8 < 4294967296 := by
  have hsize : x.afterInput.memory.size ≤ 4294967296 := x.afterInput.memory.size_le
  have hinside := x.cursor_inside
  omega

/-- The input is no longer than the memory, and begins after the null address. -/
theorem length_lt (x : Setting g handle code s) : code.length < 4294967296 := by
  have hsize : x.afterInput.memory.size ≤ 4294967296 := x.afterInput.memory.size_le
  have hinside := x.input_inside
  by_cases hempty : code = []
  · simp [hempty]
  · have hpos : 0 < x.input.toNat := Nat.pos_of_ne_zero fun hzero =>
      x.input_ne hempty (UInt32.toNat_inj.mp hzero)
    omega

/-- With its scratch memory in place, a decode of a recorded guest that cooperates runs through. -/
theorem run_decodeIn (hx : x.Cooperates) {t : Scene (σ × List Call)}
    (hstore : t.store.map Prod.fst = x.afterInput) :
    ∃ (d : Disassembly) (calls : List Call) (last : Call) (lengths : List Nat) (v : Scene (σ × List Call)),
      d.Accounts code.length lengths ∧ List.Forall₂ (Call.Advances x.cursor) calls lengths ∧
      last.returned? = some 0 ∧ attemptsOf v.calls = attemptsOf t.calls ++ calls ++ [last] ∧
      (decodeIn g.recorded handle (code.length + 1) code x.record x.cursor x.input).run t = (.ok d, v) := by
  have hmemory : t.store.memory = x.afterInput.memory := congrArg Store.memory hstore
  have hlength := x.length_lt
  obtain ⟨m, hseed⟩ := exists_seed x.cursor_inside x.input_inside
  obtain ⟨-, hleft, hoffset, -⟩ := seed_eq_ok x.cursor_lt hseed
  let u : Scene (σ × List Call) := { t with store.memory := m }
  have hseeded : u.store.map Prod.fst = x.seeded := by
    rw [seeded, hseed, ← hstore]
    rfl
  have hat : x.At u (UInt32.ofNat code.length) 0 := ⟨hseeded ▸ .first, hleft, hoffset⟩
  have htoNat : (UInt32.ofNat code.length).toNat = code.length := by
    rw [UInt32.toNat_ofNat']
    exact Nat.mod_eq_of_lt hlength
  obtain ⟨calls, last, lengths, all, instructions, rest, v, hwalk, hlast, hcalls, hrest, hall, hrun⟩ :=
    run_decodeAll hx (code.length + 1) hat (by simpa [htoNat] using hlength) (by omega) #[]
  rw [htoNat] at hwalk
  refine ⟨⟨instructions, rest.toNat⟩, calls, last, lengths, v, hwalk.accounts, hwalk.advances, hlast, hcalls, ?_⟩
  have halter : (Host.alter .scratchBuffer fun m =>
      seed m x.input code ⟨x.cursor, x.cursor + 4, x.cursor + 8⟩).run t = (.ok (), u) := by
    rw [Host.alter_eq_ok, hmemory, hseed]
    exact ⟨rfl, rfl⟩
  have hlook : (Host.inspect .cursor fun m => m.readWord32 (x.cursor + 4)).run v = (.ok rest, v) :=
    Host.inspect_eq_ok.mpr ⟨hrest, rfl⟩
  unfold decodeIn Cursor.at?
  simp only [x.cursor_lt, if_true]
  rw [Host.run_bind_of_ok halter, Host.run_bind_of_ok hrun, Host.run_bind_of_ok hlook, Host.run_pure, hall,
    List.nil_append]

end Setting

section

variable {α : Type} {t : Scene (σ × List Call)} {u : Store σ}

/-- What is used in between is all that attempts to decode anything. -/
theorem run_withAllocation_of_ok {a : Allocation} {body : Host (σ × List Call) α} {v : Scene (σ × List Call)}
    {answer : α} (hhas : g.hasFunction a.releaseFunction)
    (hfits : g.TakesIntegers a.releaseFunction a.releaseArguments.length)
    (hbody : body.run t = (.ok answer, v)) :
    ∃ w, (withAllocation g.recorded a body).run t = (.ok answer, w) ∧ attemptsOf w.calls = attemptsOf v.calls := by
  obtain ⟨c, w, hrun, hrequest, hcalls, -⟩ := Host.run_withAllocation hfits hhas hbody (by simp)
  have hother : attemptsOf [c] = [] := by
    refine attemptsOf_of_other hrequest ?_
    cases a <;> simp [Allocation.releaseFunction]
  exact ⟨w, hrun, by rw [hcalls, attemptsOf_append, hother, List.append_nil]⟩

theorem run_withBlock_of_givesWord {size : Nat} {address : UInt32}
    (hfree : g.hasFunction "free" ∧ g.TakesIntegers "free" 1) (hsize : size < 4294967296)
    (hnull : size ≠ 0 → address ≠ 0)
    (hgives : g.GivesWord "malloc" [UInt64.ofNat size] (t.store.map Prod.fst) address u) :
    ∃ v, v.store.map Prod.fst = u ∧ attemptsOf v.calls = attemptsOf t.calls ∧
      ∀ (body : UInt32 → Host (σ × List Call) α) answer w, (body address).run v = (.ok answer, w) →
        ∃ w', (withBlock g.recorded size body).run t = (.ok answer, w') ∧
          attemptsOf w'.calls = attemptsOf w.calls := by
  obtain ⟨c, v, hmade, hrequest, hstore, hrun⟩ := hgives.run_allocate hfree.1 (Guest.size_lt hsize)
  refine ⟨v, hstore, ?_, fun body answer w hbody => ?_⟩
  · rw [hmade.calls, attemptsOf_append, attemptsOf_of_other hrequest (by decide), List.append_nil]
  · obtain ⟨w', hheld, hcalls⟩ :=
      run_withAllocation_of_ok (a := .block address) hfree.1 hfree.2 hbody
    have hmalloc : (g.recorded.malloc size).run t = (.ok address, v) := hrun
    refine ⟨w', ?_, hcalls⟩
    rw [withBlock, Host.run_bind_of_ok hmalloc, if_neg fun h => hnull h.2 h.1]
    exact hheld

theorem run_withRecord_of_givesWord {address : UInt32}
    (hcsFree : g.hasFunction "cs_free" ∧ g.TakesIntegers "cs_free" 2) (hnull : address ≠ 0)
    (hgives : g.GivesWord "cs_malloc" [handle.toUInt64] (t.store.map Prod.fst) address u) :
    ∃ v, v.store.map Prod.fst = u ∧ attemptsOf v.calls = attemptsOf t.calls ∧
      ∀ (body : UInt32 → Host (σ × List Call) α) answer w, (body address).run v = (.ok answer, w) →
        ∃ w', (withRecord g.recorded handle body).run t = (.ok answer, w') ∧
          attemptsOf w'.calls = attemptsOf w.calls := by
  obtain ⟨c, v, hmade, hrequest, hstore, hrun⟩ := hgives.run_allocate hcsFree.1 (Guest.words_lt [handle])
  refine ⟨v, hstore, ?_, fun body answer w hbody => ?_⟩
  · rw [hmade.calls, attemptsOf_append, attemptsOf_of_other hrequest (by decide), List.append_nil]
  · obtain ⟨w', hheld, hcalls⟩ :=
      run_withAllocation_of_ok (a := .record address) hcsFree.1 hcsFree.2 hbody
    have hmalloc : (g.recorded.csMalloc handle).run t = (.ok address, v) := hrun
    refine ⟨w', ?_, hcalls⟩
    rw [withRecord, Host.run_bind_of_ok hmalloc, if_neg hnull]
    exact hheld

end

/-- A decode of a recorded guest that cooperates runs through in as many rounds as there are bytes, and one more. -/
theorem Setting.run_disassemble {x : Setting g handle code s} (hx : x.Cooperates)
    {t : Scene (σ × List Call)} (hstore : t.store.map Prod.fst = s) :
    ∃ (d : Disassembly) (calls : List Call) (last : Call) (lengths : List Nat) (v : Scene (σ × List Call)),
      d.Accounts code.length lengths ∧ List.Forall₂ (Call.Advances x.cursor) calls lengths ∧
      last.returned? = some 0 ∧ attemptsOf v.calls = attemptsOf t.calls ++ calls ++ [last] ∧
      (disassemble g.recorded handle (code.length + 1) code).run t = (.ok d, v) := by
  subst hstore
  -- Going in, each allocation gives the scene `tᵢ` after it; coming out, `vᵢ` is the scene after its release.
  obtain ⟨t₁, hstore₁, hcalls₁, hrecord⟩ := run_withRecord_of_givesWord hx.csFree x.record_ne x.takeRecord
  obtain ⟨t₂, hstore₂, hcalls₂, hcursor⟩ := run_withBlock_of_givesWord (t := t₁) hx.free
    (show cursorSize < 4294967296 by decide) (fun _ => x.cursor_ne) (hstore₁ ▸ x.takeCursor)
  obtain ⟨t₃, hstore₃, hcalls₃, hinput⟩ := run_withBlock_of_givesWord (t := t₂) hx.free x.length_lt
    (fun hlength => x.input_ne fun hempty => hlength (by simp [hempty])) (hstore₂ ▸ x.takeInput)
  obtain ⟨d, calls, last, lengths, v, haccounts, hadvances, hlast, hcalls, hrun⟩ := run_decodeIn hx hstore₃
  obtain ⟨v₃, hrun₃, hback₃⟩ := hinput (fun input => decodeIn g.recorded handle _ code x.record x.cursor input)
    _ _ hrun
  obtain ⟨v₂, hrun₂, hback₂⟩ := hcursor (fun block => withBlock g.recorded code.length fun input =>
    decodeIn g.recorded handle _ code x.record block input) _ _ hrun₃
  obtain ⟨v₁, hrun₁, hback₁⟩ := hrecord (fun record => withBlock g.recorded cursorSize fun block =>
    withBlock g.recorded code.length fun input =>
      decodeIn g.recorded handle _ code record block input) _ _ hrun₂
  refine ⟨d, calls, last, lengths, v₁, haccounts, hadvances, hlast, ?_, ?_⟩
  · rw [hback₁, hback₂, hback₃, hcalls, hcalls₃, hcalls₂, hcalls₁]
  · rw [disassemble, if_neg (Nat.not_le.mpr x.length_lt)]
    exact hrun₁

/-- **A decode makes progress.** If the guest cooperates, a decode comes to an end whatever the input: it answers
within any bound of more rounds than there are bytes, and always in the same way. Its attempts are those that decode an
instruction, each of which moves both slots by the length of the instruction, and a last one that does not. The
instructions stand one after another from the beginning of the input, and together with what remains they account for
every byte of it. -/
theorem disassemble_progresses (x : Setting g handle code s) (hx : x.Cooperates) (events : Array Event) :
    ∃ (d : Disassembly) (t : Scene σ) (attempts : List Call) (last : Call) (lengths : List Nat),
      (∀ steps, code.length < steps →
        (disassemble g handle steps code).run ⟨s, events⟩ = (.ok d, t) ∧
        attemptsOf (callsOf g handle steps code ⟨s, events⟩) = attempts ++ [last]) ∧
      List.Forall₂ (Call.Advances x.cursor) attempts lengths ∧ last.returned? = some 0 ∧
      d.Accounts code.length lengths := by
  obtain ⟨d, calls, last, lengths, v, haccounts, hadvances, hlast, hcalls, hrun⟩ :=
    Setting.run_disassemble hx (t := Scene.recorded ⟨s, events⟩) rfl
  refine ⟨d, v.map Prod.fst, calls, last, lengths, fun steps hsteps => ?_, hadvances, hlast, haccounts⟩
  have hrecorded := run_disassemble_of_le hrun (by simp) (show code.length + 1 ≤ steps from hsteps)
  constructor
  · rw [run_disassemble_recorded, hrecorded]
    rfl
  · rw [callsOf, hrecorded]
    exact hcalls

/-- A store with one text in its memory, and a count of the instructions decoded. -/
def pairingStore : Store Nat := ⟨Memory.tiny.patch 40 [110, 111, 112], 0, 0, {}⟩

/-- A guest that takes five bytes for two instructions of two bytes each, and leaves one. -/
def pairing : Guest Nat where
  exports := [("free", .function ⟨[.i32], []⟩), ("cs_free", .function ⟨[.i32, .i64], [.i32]⟩),
    ("malloc", .function ⟨[.i32], [.i32]⟩), ("cs_malloc", .function ⟨[.i32], [.i32]⟩),
    ("cs_disasm_iter", .function ⟨[.i32, .i32, .i32, .i32, .i32], [.i32]⟩),
    ("cs_get_mnemonic", .function ⟨[.i32], [.i32]⟩), ("cs_get_op_str", .function ⟨[.i32], [.i32]⟩)]
  initialPages := 0
  start _ surroundings := .ok (pairingStore.within surroundings)
  invoke name arguments := fun s =>
    match name, arguments with
    | "cs_malloc", _ => (.ok [.i32 8], s)
    | "malloc", [.i32 16] => (.ok [.i32 16], s)
    | "malloc", _ => (.ok [.i32 32], s)
    | "cs_disasm_iter", _ =>
      match s.globals with
      | 0 => (.ok [.i32 1], { s with memory := s.memory.patch 20 [3, 0, 0, 0, 2], globals := 1 })
      | 1 => (.ok [.i32 1], { s with memory := s.memory.patch 20 [1, 0, 0, 0, 4], globals := 2 })
      | _ => (.ok [.i32 0], s)
    | "cs_get_mnemonic", _ => (.ok [.i32 40], s)
    | "cs_get_op_str", _ => (.ok [.i32 43], s)
    | _, _ => (.ok [], s)

/-- The scratch memory that the guest gives. -/
def pairingSetting : Setting pairing 7 [1, 2, 3, 4, 5] pairingStore where
  record := 8
  cursor := 16
  input := 32
  afterRecord := pairingStore
  afterCursor := pairingStore
  afterInput := pairingStore
  takeRecord := ⟨8, ⟨_, _, rfl, rfl, rfl⟩, rfl⟩
  takeCursor := ⟨16, ⟨_, _, rfl, rfl, rfl⟩, rfl⟩
  takeInput := ⟨32, ⟨_, _, rfl, rfl, rfl⟩, rfl⟩
  record_ne := by decide
  cursor_ne := by decide
  input_ne := by decide
  cursor_inside := by decide
  input_inside := by decide

/-- The store after the guest has decoded an instruction, by the five bytes that it writes. -/
def pairingMoved (s : Store Nat) (bytes : List UInt8) : Store Nat :=
  { s with memory := s.memory.patch 20 bytes, globals := s.globals + 1 }

theorem pairing_attempt (t : Store Nat) :
    pairingSetting.Attempts t (if t.globals < 2 then 1 else 0) (match t.globals with
      | 0 => pairingMoved t [3, 0, 0, 0, 2]
      | 1 => pairingMoved t [1, 0, 0, 0, 4]
      | _ => t) := by
  obtain ⟨memory, pageLimit, globals, surroundings⟩ := t
  match globals with
  | 0 => exact ⟨_, _, rfl, rfl, rfl⟩
  | 1 => exact ⟨_, _, rfl, rfl, rfl⟩
  | n + 2 => exact ⟨_, _, rfl, rfl, rfl⟩

theorem pairing_describes {t u : Store Nat} {mnemonic operands : UInt32}
    (h : pairingSetting.Describes t mnemonic operands u) : u = t := by
  obtain ⟨v, ⟨number, hmnemonic, -⟩, ⟨number', hoperands, -⟩⟩ := h
  have hv := (hmnemonic.unique ⟨_, _, rfl, rfl, rfl⟩).2
  have hu := (hoperands.unique ⟨_, _, rfl, rfl, rfl⟩).2
  exact hu.trans hv

/-- The stores in which the guest is asked for an instruction. -/
theorem pairing_reaches {t : Store Nat} (h : pairingSetting.Reaches t) :
    t = pairingSetting.seeded ∨ t = pairingMoved pairingSetting.seeded [3, 0, 0, 0, 2] ∨
      t = pairingMoved (pairingMoved pairingSetting.seeded [3, 0, 0, 0, 2]) [1, 0, 0, 0, 4] := by
  induction h with
  | first => exact .inl rfl
  | @next t u v number mnemonic operands _ hattempt hfound hdescribed ih =>
    obtain ⟨hnumber, rfl⟩ := hattempt.unique (pairing_attempt t)
    rw [pairing_describes hdescribed]
    rcases ih with rfl | rfl | rfl
    · exact .inr (.inl rfl)
    · exact .inr (.inr rfl)
    · exact absurd hnumber hfound

theorem pairing_hasText {t : Store Nat} (h : pairingSetting.Reaches t) :
    t.memory.HasText 40 [110, 111, 112] ∧ t.memory.HasText 43 [] := by
  rcases pairing_reaches h with rfl | rfl | rfl <;>
    exact ⟨⟨by with_unfolding_all rfl, by decide, by decide, by with_unfolding_all rfl⟩,
      ⟨by with_unfolding_all rfl, by decide, by decide, by with_unfolding_all rfl⟩⟩

theorem pairing_cooperates : pairingSetting.Cooperates where
  free := ⟨rfl, fun _ h => by cases h; decide, fun _ _ _ _ h => by cases h; simp⟩
  csFree := ⟨rfl, fun _ h => by cases h; decide, fun _ _ _ _ h => by cases h; simp⟩
  attempts t _ := ⟨_, _, pairing_attempt t⟩
  stays t u hreaches hattempt := by
    obtain ⟨hnumber, rfl⟩ := hattempt.unique (pairing_attempt t)
    rcases pairing_reaches hreaches with rfl | rfl | rfl
    · exact absurd hnumber (by decide)
    · exact absurd hnumber (by decide)
    · exact fun _ _ hslots => hslots
  moves t number u hreaches hattempt hfound := by
    obtain ⟨hnumber, rfl⟩ := hattempt.unique (pairing_attempt t)
    intro left offset hslots
    rcases pairing_reaches hreaches with rfl | rfl | rfl
    · obtain rfl : 5 = left := Except.ok.inj hslots.left
      obtain rfl : 0 = offset := Except.ok.inj hslots.offset
      exact ⟨2, by decide, by decide, by with_unfolding_all rfl, by with_unfolding_all rfl⟩
    · obtain rfl : 3 = left := Except.ok.inj hslots.left
      obtain rfl : 2 = offset := Except.ok.inj hslots.offset
      exact ⟨2, by decide, by decide, by with_unfolding_all rfl, by with_unfolding_all rfl⟩
    · exact absurd hnumber hfound
  describes t number u hreaches hattempt hfound := by
    have hdescribes : pairingSetting.Describes u 40 43 u :=
      ⟨u, ⟨40, ⟨_, _, rfl, rfl, rfl⟩, rfl⟩, ⟨43, ⟨_, _, rfl, rfl, rfl⟩, rfl⟩⟩
    obtain ⟨htext, hnone⟩ := pairing_hasText (.next hreaches hattempt hfound hdescribes)
    exact ⟨40, 43, u, hdescribes, fun _ _ hslots => hslots, ⟨_, htext⟩, ⟨_, hnone⟩⟩

/-- Two instructions of two bytes each are decoded, and one byte remains. -/
theorem pairing_progresses :
    ∃ (d : Disassembly) (t : Scene Nat),
      (∀ steps, 5 < steps →
        (disassemble pairing 7 steps [1, 2, 3, 4, 5]).run { store := pairingStore } = (.ok d, t)) ∧
      d = ⟨[⟨0, "nop", ""⟩, ⟨2, "nop", ""⟩], 1⟩ ∧ d.Accounts 5 [2, 2] := by
  obtain ⟨d, t, attempts, last, lengths, hruns, -, -, haccounts⟩ :=
    disassemble_progresses pairingSetting pairing_cooperates #[]
  have hsix : ((disassemble pairing 7 6 [1, 2, 3, 4, 5]).run { store := pairingStore }).1 =
      .ok ⟨[⟨0, "nop", ""⟩, ⟨2, "nop", ""⟩], 1⟩ := by with_unfolding_all rfl
  have hd : d = ⟨[⟨0, "nop", ""⟩, ⟨2, "nop", ""⟩], 1⟩ := by
    rw [(hruns 6 (by decide)).1] at hsix
    exact Except.ok.inj hsix
  subst hd
  refine ⟨_, t, fun steps hsteps => (hruns steps hsteps).1, rfl, ?_⟩
  have hlengths : lengths = [2, 2] := by
    have hcount : 2 = lengths.length := haccounts.count
    match lengths, hcount with
    | [k, k'], _ =>
      have hnext : 2 = 0 + k := haccounts.next 0 _ _ k rfl rfl rfl
      have htotal : k + (k' + 0) + 1 = 5 := haccounts.total
      simp only [List.cons.injEq, and_true]
      omega
  exact hlengths ▸ haccounts

end Session

end DecoderHost

import DecoderHost.Guest.Action
import DecoderHost.Proofs.Memory.Patch

/-!
# Running guest code

How the operations of guest code run on a store, one equation each. An access is given with the fact that it
lies inside the memory, so that code runs by rewriting once the addresses are known.
-/

namespace DecoderHost.GuestAction

variable {σ α β : Type}

/-- What comes of guest code that is started on a store. -/
def run (code : GuestAction σ α) (s : Store σ) : Except Trap α × Store σ := code s

@[simp] theorem run_pure (a : α) (s : Store σ) : run (pure a) s = (.ok a, s) := rfl

theorem run_bind (code : GuestAction σ α) (f : α → GuestAction σ β) (s : Store σ) :
    run (code >>= f) s = match run code s with
      | (.ok a, t) => run (f a) t
      | (.error trap, t) => (.error trap, t) := by
  unfold run
  simp only [bind, ExceptT.bind, ExceptT.mk, StateT.bind]
  cases code s with
  | mk r t => cases r <;> rfl

/-- What follows a piece of code that runs to its end. -/
theorem run_bind_of_ok {code : GuestAction σ α} {f : α → GuestAction σ β} {s t : Store σ} {a : α}
    (h : run code s = (.ok a, t)) : run (code >>= f) s = run (f a) t := by
  rw [run_bind, h]

theorem run_map_of_ok {code : GuestAction σ α} {f : α → β} {s t : Store σ} {a : α}
    (h : run code s = (.ok a, t)) : run (f <$> code) s = (.ok (f a), t) := by
  rw [← bind_pure_comp, run_bind_of_ok h, run_pure]

@[simp] theorem run_globals (s : Store σ) : run globals s = (.ok s.globals, s) := rfl

@[simp] theorem run_modifyGlobals (f : σ → σ) (s : Store σ) :
    run (modifyGlobals f) s = (.ok (), { s with globals := f s.globals }) := rfl

theorem run_load {address : UInt32} {count offset : Nat} {s : Store σ}
    (h : address.toNat + offset + count ≤ s.memory.size) :
    run (load count address offset) s = (.ok (s.memory.number (address.toNat + offset) count), s) := by
  simp only [run, load, h, if_true, Memory.number]

theorem run_load32 {address : UInt32} {offset : Nat} {s : Store σ}
    (h : address.toNat + offset + 4 ≤ s.memory.size) :
    run (load32 address offset) s = (.ok (s.memory.word32 (address.toNat + offset)), s) :=
  run_map_of_ok (run_load h)

theorem run_load64 {address : UInt32} {offset : Nat} {s : Store σ}
    (h : address.toNat + offset + 8 ≤ s.memory.size) :
    run (load64 address offset) s = (.ok (s.memory.word64 (address.toNat + offset)), s) :=
  run_map_of_ok (run_load h)

theorem run_load8 {address : UInt32} {offset : Nat} {s : Store σ}
    (h : address.toNat + offset < s.memory.size) :
    run (load8 address offset) s = (.ok (s.memory.byteAt (address.toNat + offset)), s) := by
  simp only [run, load8, Memory.get?_eq_some.mpr ⟨h, rfl⟩]

theorem run_store {bytes : List UInt8} {address : UInt32} {offset : Nat} {s : Store σ}
    (h : address.toNat + offset + bytes.length ≤ s.memory.size) :
    run (store bytes address offset) s =
      (.ok (), { s with memory := s.memory.patch (address.toNat + offset) bytes }) := by
  simp only [run, store, h, if_true]

/-- A number is stored in so many bytes. -/
theorem run_store_littleEndian {address : UInt32} {count n offset : Nat} {s : Store σ}
    (h : address.toNat + offset + count ≤ s.memory.size) :
    run (store (Word.littleEndian count n) address offset) s = (.ok (), { s with
      memory := s.memory.patch (address.toNat + offset) (Word.littleEndian count n) }) :=
  run_store (by rwa [Word.length_littleEndian])

theorem run_store32 {address value : UInt32} {offset : Nat} {s : Store σ}
    (h : address.toNat + offset + 4 ≤ s.memory.size) :
    run (store32 address value offset) s = (.ok (), { s with
      memory := s.memory.patch (address.toNat + offset) (Word.littleEndian 4 value.toNat) }) :=
  run_store_littleEndian h

theorem run_store64 {address : UInt32} {value : UInt64} {offset : Nat} {s : Store σ}
    (h : address.toNat + offset + 8 ≤ s.memory.size) :
    run (store64 address value offset) s = (.ok (), { s with
      memory := s.memory.patch (address.toNat + offset) (Word.littleEndian 8 value.toNat) }) :=
  run_store_littleEndian h

end DecoderHost.GuestAction

import DecoderHost.Proofs.Guest.Recording

/-!
# Giving scratch memory back

Each kind of allocation is given back by one function of the guest, and an attempt to do so is one call of
it, whatever comes of the call.
-/

namespace DecoderHost

variable {σ : Type}

/-- The function that gives an allocation back. -/
def Allocation.releaseFunction : Allocation → String
  | .block _ => "free"
  | .record _ => "cs_free"

/-- The numbers with which an allocation is given back; a record is given back as one. -/
def Allocation.releaseArguments : Allocation → List UInt64
  | .block address => [address.toUInt64]
  | .record address => [address.toUInt64, 1]

theorem Allocation.releaseArguments_lt (a : Allocation) :
    ∀ number ∈ a.releaseArguments, number.toNat < 4294967296 := by
  cases a with
  | block address => exact Guest.words_lt [address]
  | record address => exact Guest.words_lt [address, 1]

namespace Session

theorem run_release (g : Guest σ) (a : Allocation) (s : Scene σ) :
    (release g a).run s = match (g.tryCall a.releaseFunction a.releaseArguments).run s with
      | (.ok (.ok _), t) => (.ok (), t)
      | (.ok (.error e), t) => (Host.record (.scratchNotReleased a e)).run t
      | (.error stop, t) => (.error stop, t) := by
  cases a with
  | block address =>
    show ((g.tryCall "free" [address.toUInt64] >>= _) >>= _).run s = _
    rw [Host.run_bind, Host.run_bind]
    simp only [Allocation.releaseFunction, Allocation.releaseArguments]
    rcases (g.tryCall "free" [address.toUInt64]).run s with ⟨stop | (e | _), t⟩ <;> rfl
  | record address =>
    show ((g.tryCall "cs_free" [address.toUInt64, 1] >>= _) >>= _).run s = _
    rw [Host.run_bind, Host.run_bind]
    simp only [Allocation.releaseFunction, Allocation.releaseArguments]
    rcases (g.tryCall "cs_free" [address.toUInt64, 1]).run s with ⟨stop | (e | _), t⟩ <;> rfl

end Session

end DecoderHost

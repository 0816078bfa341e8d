import DecoderHost.Proofs.Session.Scratch

/-!
# What was obtained is given back

A list of calls tells by itself which allocations were obtained, and which calls were made to release them.
`GivenBack` says of such a list that everything obtained is released, the last first.
-/

namespace DecoderHost

namespace Call

/-- A call of a function that releases memory. -/
def IsRelease (c : Call) : Prop := c.name = "free" ∨ c.name = "cs_free"

/-- The allocation that a call obtained. The null address is none, but an empty block may have it. -/
def acquired? (c : Call) : Option Allocation :=
  match c.returned? with
  | none => none
  | some number =>
    if c.name = "cs_malloc" ∧ number.toUInt32 ≠ 0 then some (.record number.toUInt32)
    else if c.name = "malloc" ∧ (number.toUInt32 ≠ 0 ∨ c.request.2 = [0]) then
      some (.block number.toUInt32)
    else none

theorem acquired?_of_isRelease {c : Call} (h : c.IsRelease) : c.acquired? = none := by
  unfold acquired?
  split
  · rfl
  · rcases h with h | h <;> simp [h]

theorem acquired?_of_returned? {c : Call} (h : c.returned? = none) : c.acquired? = none := by
  simp [acquired?, h]

theorem name_of_request {c : Call} {name : String} {arguments : List UInt64}
    (h : c.request = (name, arguments)) : c.name = name := congrArg Prod.fst h

end Call

/-- An attempt to give an allocation back. -/
structure Release where
  allocation : Allocation
  call : Call

/-- The event that a release leaves behind if it traps. -/
def Release.warning? (r : Release) : Option Event :=
  r.call.trap?.map fun trap => .scratchNotReleased r.allocation (Guest.trapError r.call.name trap)

/-- **Everything obtained among the calls is released.** The releases come last, each allocation has one,
and their order is the reverse of that in which the allocations were obtained. -/
structure GivenBack (calls : List Call) (releases : List Release) : Prop where
  last : ∃ work, calls = work ++ releases.map Release.call ∧ ∀ c ∈ work, ¬ c.IsRelease
  requests : ∀ r ∈ releases,
    r.call.request = (r.allocation.releaseFunction, r.allocation.releaseArguments)
  reversed : releases.map Release.allocation = (calls.filterMap Call.acquired?).reverse

theorem Release.isRelease {r : Release}
    (h : r.call.request = (r.allocation.releaseFunction, r.allocation.releaseArguments)) :
    r.call.IsRelease := by
  have hname := Call.name_of_request h
  unfold Call.IsRelease
  cases ha : r.allocation <;> simp [hname, ha, Allocation.releaseFunction]

namespace GivenBack

/-- Calls that obtain nothing and release nothing. -/
theorem of_work {work : List Call} (h : ∀ c ∈ work, ¬ c.IsRelease ∧ c.acquired? = none) :
    GivenBack work [] where
  last := ⟨work, by simp, fun c hc => (h c hc).1⟩
  requests := by simp
  reversed := by
    rw [List.filterMap_eq_nil_iff.mpr fun c hc => (h c hc).2]
    rfl

/-- One more allocation around calls that give back what they obtain. -/
theorem wrap {calls : List Call} {releases : List Release} (h : GivenBack calls releases)
    {c : Call} {r : Release} (hc : ¬ c.IsRelease) (hacquired : c.acquired? = some r.allocation)
    (hr : r.call.request = (r.allocation.releaseFunction, r.allocation.releaseArguments)) :
    GivenBack (c :: calls ++ [r.call]) (releases ++ [r]) where
  last := by
    obtain ⟨work, rfl, hwork⟩ := h.last
    refine ⟨c :: work, by simp, ?_⟩
    intro d hd
    rcases List.mem_cons.mp hd with rfl | hd
    · exact hc
    · exact hwork d hd
  requests := by
    intro q hq
    rcases List.mem_append.mp hq with hq | hq
    · exact h.requests q hq
    · rw [List.mem_singleton.mp hq]
      exact hr
  reversed := by
    have hnone := Call.acquired?_of_isRelease (Release.isRelease hr)
    simp [List.filterMap_append, hacquired, hnone, h.reversed]

end GivenBack

end DecoderHost

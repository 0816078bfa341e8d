import DecoderHost.Guest.Native
import DecoderHost.Proofs.Fleet.History
import DecoderHost.Proofs.Session.Required
import Mathlib.Data.List.Infix

/-!
# Verified decoders

`Decoder.verify` looks at the exports of a module before anything is run, and the engines look functions up one by
one while they run. The main statement is that the first settles the second: `verify` names the first required
function that is not exported, and if there is none, no engine of the decoder ever panics for want of a function.
-/

namespace DecoderHost

variable {σ : Type}

/-! ## The wording of a missing function -/

/-- Two texts diverge: they differ before either of them ends. -/
def Diverge (one other : String) : Prop := ¬ one.toList <+: other.toList ∧ ¬ other.toList <+: one.toList

instance (one other : String) : Decidable (Diverge one other) := inferInstanceAs (Decidable (_ ∧ _))

/-- Texts that diverge do so whatever the second goes on with. -/
theorem Diverge.append {one other : String} (h : Diverge one other) (more : String) : Diverge one (other ++ more) := by
  unfold Diverge
  rw [String.toList_append]
  constructor
  · intro hone
    exact (List.prefix_or_prefix_of_prefix hone (List.prefix_append ..)).elim h.1 h.2
  · intro hother
    exact h.2 ((List.prefix_append ..).trans hother)

/-- Texts diverge if their first characters differ. -/
theorem Diverge.of_head {one other : String} {c d : Char} {rest : List Char} (hone : one.toList.head? = some c)
    (hother : other.toList = d :: rest) (h : c ≠ d) : Diverge one other := by
  obtain ⟨rest', hone⟩ := List.head?_eq_some_iff.mp hone
  rw [Diverge, hone, hother]
  simp [List.cons_prefix_cons, h, Ne.symm h]

/-- What is said of a function that is not there begins like this. -/
def absence : String := "decoder module does not export"

theorem HostError.diverge_message (e : HostError) : Diverge absence e.message := by
  cases e <;> exact Diverge.append (by decide) _

/-- A number does not begin like the wording of a missing function. -/
theorem diverge_number (n : Nat) : Diverge absence (toString n) := by
  cases hdigits : Nat.toDigits 10 n with
  | nil => exact absurd hdigits Nat.toDigits_ne_nil
  | cons d digits =>
    have hd : d.isDigit := Nat.isDigit_of_mem_toDigits (by decide) (by decide) (hdigits ▸ List.mem_cons_self)
    have hfirst : absence.toList.head? = some 'd' := by decide
    have hnumber : (toString n).toList = d :: digits := by
      rw [← hdigits]
      exact String.toList_ofList
    refine Diverge.of_head hfirst hnumber ?_
    rintro rfl
    cases hd

/-- Nor does the name of an architecture. -/
theorem diverge_arch (arch : Arch) : Diverge absence arch.name := by
  have hfirst : absence.toList.head? = some 'd' := by decide
  cases arch <;> exact Diverge.of_head hfirst rfl (by decide)

/-- The wording of any other panic diverges from it. -/
theorem Panic.diverge_message {p : Panic} (h : p.missing? = none) : Diverge absence p.message := by
  have hquote : Diverge absence "`" := by decide
  cases p with
  | missingFunction name => cases h
  | callFailed error => exact error.diverge_message
  | noHandleSlot | noRecord | addressOverflow => decide
  | usedAfterClose arch => exact (diverge_arch arch).append _
  | inputTooLong length => exact (diverge_number length).append _
  | argumentCount => exact (((((hquote.append _).append _).append _).append _).append _)
  | parameterType | resultType => exact (((hquote.append _).append _).append _)
  | handleSlot error => exact Diverge.append (by decide) _
  | noBlock size => exact (Diverge.append (by decide) _).append _
  | invalidDatum datum error => exact ((Diverge.append (by decide) _).append _).append _

/-- A panic is worded as one for want of a function exactly if it is one. -/
theorem Panic.absence_prefix_iff {p : Panic} :
    absence.toList <+: p.message.toList ↔ ∃ name, p = .missingFunction name := by
  constructor
  · intro h
    cases hmissing : p.missing? with
    | none => exact absurd h (diverge_message hmissing).1
    | some name =>
      cases p with
      | missingFunction name => exact ⟨name, rfl⟩
      | _ => cases hmissing
  · rintro ⟨name, rfl⟩
    have hfirst : absence.toList <+: "decoder module does not export `".toList := by decide
    show absence.toList <+: ("decoder module does not export `" ++ name ++ "`").toList
    rw [String.toList_append, String.toList_append, List.append_assoc]
    exact hfirst.trans (List.prefix_append ..)

/-! ## What is exported -/

/-- A function is exported under a name; anything else of that name does not count. -/
def Guest.ExportsFunction (g : Guest σ) (name : String) : Prop :=
  ∃ signature, g.export? name = some (.function signature)

theorem Guest.hasFunction_iff {g : Guest σ} {name : String} : g.hasFunction name ↔ g.ExportsFunction name := by
  unfold hasFunction function? ExportsFunction
  split <;> simp_all

theorem Decoder.requireFunctions_eq_ok_iff {d : Decoder σ} {names : List String} :
    d.requireFunctions names = .ok () ↔ ∀ name ∈ names, d.guest.ExportsFunction name := by
  simp only [← Guest.hasFunction_iff]
  unfold requireFunctions
  cases hfind : names.find? fun name => !d.guest.hasFunction name with
  | none => simpa using List.find?_eq_none.mp hfind
  | some missing =>
    refine iff_of_false (by simp) fun h => ?_
    have hmissing := List.find?_some hfind
    simp [h missing (List.mem_of_find?_eq_some hfind)] at hmissing

/-- The function that is reported is the first that is not exported. -/
theorem Decoder.requireFunctions_eq_error_iff {d : Decoder σ} {names : List String} {e : HostError} :
    d.requireFunctions names = .error e ↔ ∃ before name after, names = before ++ name :: after ∧
      (∀ other ∈ before, d.guest.ExportsFunction other) ∧ ¬ d.guest.ExportsFunction name ∧
      e = .exportNotFound name := by
  have hfirst : d.requireFunctions names = .error e ↔
      ∃ name, names.find? (fun name => !d.guest.hasFunction name) = some name ∧ e = .exportNotFound name := by
    unfold requireFunctions
    cases names.find? fun name => !d.guest.hasFunction name <;> simp [eq_comm]
  simp only [hfirst, List.find?_eq_some_iff_append, ← Guest.hasFunction_iff]
  constructor
  · rintro ⟨name, ⟨hname, before, after, hnames, hbefore⟩, he⟩
    exact ⟨before, name, after, hnames, by simpa using hbefore, by simpa using hname, he⟩
  · rintro ⟨before, name, after, hnames, hbefore, hname, he⟩
    exact ⟨name, ⟨by simpa using hname, before, after, hnames, by simpa using hbefore⟩, he⟩

/-! ## Engines -/

/-- A request that is answered with a panic for want of a function wants for a required one, which the guest lacks. -/
def Reply.AsksRequired {α : Type} (g : Guest σ) (reply : Reply α) : Prop :=
  ∀ name, reply.outcome = .error (.stopped (.panic (.missingFunction name))) →
    name ∈ Guest.requiredFunctions ∧ ¬ g.hasFunction name

namespace Disassembler

theorem asksRequired_open (d : Decoder σ) (arch : Arch) (mode : Mode) (pool : Pool) :
    (Disassembler.open d arch mode pool).1.AsksRequired d.guest := by
  intro name h
  have hends := open_ends d arch mode pool
  generalize Disassembler.open d arch mode pool = outcome at hends h
  cases hends with
  | stopped _ _ hopen =>
    obtain rfl := Failure.stopped.inj (Except.error.inj h)
    exact Host.AsksRequired.open d.guest arch mode _ _ _ hopen
  | full | unready | refused | opened => cases h

theorem asksRequired_disassemble (d : Decoder σ) (steps : Nat) (code : List UInt8) (x : Disassembler σ) :
    (x.disassemble d steps code).1.AsksRequired d.guest := by
  intro name h
  obtain ⟨arch, mode, _ | ⟨store, handle⟩⟩ := x
  · cases h
  · rw [disassemble_opened] at h
    rcases hrun : Session.disassemble d.guest handle steps code { store } with ⟨stop | decoded, t⟩ <;> rw [hrun] at h
    · obtain rfl := Failure.stopped.inj (Except.error.inj h)
      exact Host.AsksRequired.disassemble d.guest handle steps code _ _ _ hrun
    · cases h

end Disassembler

theorem Reply.AsksRequired.map {α β : Type} {g : Guest σ} {reply : Reply α} (h : reply.AsksRequired g) (f : α → β) :
    (reply.map f).AsksRequired g := by
  intro name hmap
  refine h name ?_
  cases houtcome : reply.outcome with
  | error failure => simpa [houtcome, Except.map] using hmap
  | ok a => simp [houtcome, Except.map] at hmap

/-- **One request.** Whatever engines there are, and whatever the guest has done before, it asks for required
functions only. -/
theorem Fleet.asksRequired_perform (d : Decoder σ) (steps : Nat) (request : Request) (fleet : Fleet σ) :
    ∀ reply ∈ (fleet.perform d steps request).1, reply.AsksRequired d.guest := by
  intro reply hreply
  cases request with
  | «open» name arch mode =>
    have hopen := Disassembler.asksRequired_open d arch mode fleet.pool
    have houtcome : (fleet.open d name arch mode).1 = (Disassembler.open d arch mode fleet.pool).1 := by
      unfold Fleet.open
      dsimp only
      split <;> rfl
    simp only [perform, houtcome, Option.mem_def, Option.some.injEq] at hreply
    exact hreply ▸ hopen.map _
  | disassemble name code | decode name code =>
    simp only [perform, Fleet.disassemble] at hreply
    cases hx : fleet.members.get? name with
    | none => simp [hx] at hreply
    | some x =>
      simp only [hx, Option.map_some, Option.mem_def, Option.some.injEq] at hreply
      exact hreply ▸ (Disassembler.asksRequired_disassemble d steps code _).map _
  | close name =>
    simp only [perform, Fleet.close] at hreply
    cases hx : fleet.members.get? name with
    | none => simp [hx] at hreply
    | some x =>
      simp only [hx, Option.map_some, Option.mem_def, Option.some.injEq] at hreply
      subst hreply
      intro name h
      cases h
  | isClosed name =>
    obtain ⟨x, -, rfl⟩ := Option.map_eq_some_iff.mp hreply
    intro name h
    cases h

/-- Any number of requests. -/
theorem Fleet.asksRequired_replies (d : Decoder σ) (steps : Nat) (requests : List Request) (fleet : Fleet σ) :
    ∀ reply, some reply ∈ (replies (Fleet.perform d steps) requests fleet).1 → reply.AsksRequired d.guest := by
  induction requests generalizing fleet with
  | nil => simp [replies]
  | cons request rest ih =>
    intro reply hreply
    rcases List.mem_cons.mp hreply with hfirst | hrest
    · exact asksRequired_perform d steps request fleet reply hfirst.symm
    · exact ih _ reply hrest

/-- **A verified decoder wants for nothing.** To verify a decoder is to look for the required functions in their
order: it fails with the first that is not exported as a function, and succeeds if there is none. If it succeeds,
engines may be opened on the decoder for any target, decode anything and be closed, in any order and whatever the
guest does: no panic is ever worded as one for want of a function. -/
theorem Decoder.verify_sound (d : Decoder σ) :
    (∀ e, d.verify = .error e ↔ ∃ before name after, Guest.requiredFunctions = before ++ name :: after ∧
      (∀ other ∈ before, d.guest.ExportsFunction other) ∧ ¬ d.guest.ExportsFunction name ∧
      e = .exportNotFound name) ∧
    (d.verify = .ok () ↔ ∀ name ∈ Guest.requiredFunctions, d.guest.ExportsFunction name) ∧
    (d.verify = .ok () → ∀ steps requests reply p,
      some reply ∈ (replies (Fleet.perform d steps) requests (Fleet.ofDecoder d)).1 →
      reply.outcome = .error (.stopped (.panic p)) →
      ¬ "decoder module does not export".toList <+: p.message.toList) := by
  refine ⟨fun e => requireFunctions_eq_error_iff, requireFunctions_eq_ok_iff, ?_⟩
  intro hverify steps requests reply p hreply houtcome hworded
  obtain ⟨name, rfl⟩ := Panic.absence_prefix_iff.mp hworded
  obtain ⟨hrequired, hlacks⟩ := Fleet.asksRequired_replies d steps requests _ reply hreply name houtcome
  exact hlacks (Guest.hasFunction_iff.mpr (requireFunctions_eq_ok_iff.mp hverify name hrequired))

/-- A decoder whose module has one of the functions, and a global under the name of another. -/
def sparse : Decoder Unit where
  engine := { config := {}, cacheDir := none }
  module := { contentHash := "", guest := Inert.guest [("malloc", .function ⟨[.i32], [.i32]⟩), ("free", .global)] 1 }

/-- A global is no function, and on a verified decoder a trap and a decode after closing are panics of other kinds. -/
theorem standIn_verify_sound :
    sparse.verify = .error (.exportNotFound "free") ∧ StandIn.decoder.verify = .ok () ∧
      ∀ reply p, some reply ∈ (replies (Fleet.perform StandIn.decoder 70000) [.open "a" .x86 .mode64,
          .disassemble "a" [0xCC], .close "a", .decode "a" [0x90]] (Fleet.ofDecoder StandIn.decoder)).1 →
        reply.outcome = .error (.stopped (.panic p)) →
        ¬ "decoder module does not export".toList <+: p.message.toList := by
  have hsparse : sparse.verify = .error (.exportNotFound "free") := by
    refine (sparse.verify_sound.1 _).mpr ⟨["malloc"], "free", _, rfl, ?_, ?_, rfl⟩
    · simp only [List.mem_singleton, forall_eq]
      exact ⟨_, rfl⟩
    · rintro ⟨signature, h⟩
      cases h
  have hverify : StandIn.decoder.verify = .ok () := by decide
  exact ⟨hsparse, hverify, StandIn.decoder.verify_sound.2.2 hverify 70000 _⟩

end DecoderHost

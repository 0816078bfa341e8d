import DecoderHost.Proofs.Host.Run
import DecoderHost.Proofs.Memory.Terminated
import DecoderHost.Proofs.Text.Utf8
import DecoderHost.Session.Decode
import Mathlib.Data.List.TakeWhile

/-!
# Texts handed over in memory

A text is handed over as its bytes with a zero byte behind them. The host reads back what was handed over, whatever
else the memory holds; only a text with a zero character in it is cut off there. Bytes that spell no text are repaired,
and what they are repaired to is told apart from every text that was handed over without a replacement character. The
main statement is `guestText_faithful`.
-/

namespace DecoderHost.Session

variable {σ : Type} {text : String} {address : UInt32} {m m' : Memory}

/-! ## Reading a text -/

/-- A text of the guest's is read without any call. -/
theorem guestText_eq_ok {datum : GuestDatum} {s t : Scene σ}
    (h : (guestText datum address).run s = (.ok text, t)) :
    t = s ∧ ∃ bytes, s.store.memory.HasText address.toNat bytes ∧
      text = String.ofList (Text.Utf8.repair bytes) := by
  obtain ⟨bytes, u, hlook, hpure⟩ := Host.bind_eq_ok.mp h
  obtain ⟨hread, rfl⟩ := Host.inspect_eq_ok.mp hlook
  simp only [Host.run_pure, Prod.mk.injEq, Except.ok.injEq] at hpure
  exact ⟨hpure.2.symm, bytes, Memory.readTerminated_eq_ok.mp hread, hpure.1.symm⟩

theorem run_guestText_of_hasText {datum : GuestDatum} {bytes : List UInt8} {s : Scene σ}
    (h : s.store.memory.HasText address.toNat bytes) :
    (guestText datum address).run s = (.ok (String.ofList (Text.Utf8.repair bytes)), s) := by
  have hread : (Host.inspect datum fun m => m.readTerminated address).run s = (.ok bytes, s) :=
    Host.inspect_eq_ok.mpr ⟨Memory.readTerminated_eq_ok.mpr h, rfl⟩
  rw [guestText, Host.run_bind_of_ok hread, Host.run_pure]

/-! ## Handing a text over -/

/-- A text as it is handed over. -/
def terminated (text : String) : List UInt8 := Text.Utf8.encode text.toList ++ [0]

/-- The part of a text that arrives: what comes before its first zero character. -/
def arriving (text : String) : List Char := text.toList.takeWhile (· ≠ '\x00')

theorem arriving_eq (h : '\x00' ∉ text.toList) : arriving text = text.toList := by
  rw [arriving, List.takeWhile_eq_self_iff]
  intro c hc
  simpa using fun hzero : c = '\x00' => h (hzero ▸ hc)

theorem mem_of_mem_arriving {c : Char} (h : c ∈ arriving text) : c ∈ text.toList :=
  (List.takeWhile_sublist _).subset h

/-- No byte of what arrives is zero. -/
theorem zero_not_mem_arriving (text : String) : 0 ∉ Text.Utf8.encode (arriving text) := by
  intro hmem
  obtain ⟨c, hc, hpoint⟩ := Text.Utf8.mem_encode (by decide) hmem
  have hzero : c = '\x00' := Char.toNat_inj.mp hpoint
  have hkept := List.mem_takeWhile_imp hc
  simp [hzero] at hkept

/-- What is handed over begins with the bytes of what arrives and a zero byte. -/
theorem terminated_eq (text : String) :
    ∃ more, terminated text = Text.Utf8.encode (arriving text) ++ 0 :: more := by
  have hparts : arriving text ++ text.toList.dropWhile (· ≠ '\x00') = text.toList := List.takeWhile_append_dropWhile
  cases hrest : text.toList.dropWhile (· ≠ '\x00') with
  | nil =>
    rw [hrest, List.append_nil] at hparts
    exact ⟨[], by rw [terminated, ← hparts]⟩
  | cons c rest =>
    have hzero : c = '\x00' := by
      have hhead := List.head?_dropWhile_not (· ≠ '\x00') text.toList
      rw [hrest] at hhead
      simpa using hhead
    refine ⟨Text.Utf8.encode rest ++ [0], ?_⟩
    rw [terminated, ← hparts, hrest, hzero, Text.Utf8.encode_append, Text.Utf8.encode_cons, List.append_assoc]
    rfl

/-- A text that was handed over lies in the memory, as far as it arrives. -/
theorem hasText_of_write (h : m.write address (terminated text) = .ok m') :
    m'.HasText address.toNat (Text.Utf8.encode (arriving text)) := by
  obtain ⟨more, hterminated⟩ := terminated_eq text
  rw [hterminated, Memory.write_eq_ok] at h
  obtain ⟨hfits, rfl⟩ := h
  have hslice := Memory.slice_patch_self hfits
  rw [← Memory.size_patch m address.toNat] at hfits
  exact Memory.hasText_of_slice (zero_not_mem_arriving text) hfits hslice

/-- What was handed over is read as far as it arrives. -/
theorem run_guestText_of_write {datum : GuestDatum} {s : Scene σ}
    (h : m.write address (terminated text) = .ok s.store.memory) :
    (guestText datum address).run s = (.ok (String.ofList (arriving text)), s) := by
  rw [run_guestText_of_hasText (hasText_of_write h), Text.Utf8.repair_encode]

/-- **Texts are handed over faithfully.** A text without zero characters is read back as it was, wherever it fits and
whatever else the memory holds. Bytes that spell no text are read as one with a replacement character, which is none
that is read back from a text without such characters. -/
theorem guestText_faithful (datum : GuestDatum) (address : UInt32) (s : Scene σ) :
    (∀ text : String, '\x00' ∉ text.toList → address.toNat + (terminated text).length ≤ s.store.memory.size →
      ∃ m, s.store.memory.write address (terminated text) = .ok m ∧
        (guestText datum address).run { s with store.memory := m } = (.ok text, { s with store.memory := m })) ∧
    ∀ bytes, s.store.memory.readTerminated address = .ok bytes → ¬ Text.Utf8.WellFormed bytes →
      ∃ text, (guestText datum address).run s = (.ok text, s) ∧ '\uFFFD' ∈ text.toList ∧
        ∀ (sent : String) (m : Memory) (place : UInt32) (t : Scene σ), '\uFFFD' ∉ sent.toList →
          m.write place (terminated sent) = .ok t.store.memory →
          ∃ received, (guestText datum place).run t = (.ok received, t) ∧ text ≠ received := by
  constructor
  · intro text hzero hfits
    have hwrite : s.store.memory.write address (terminated text) =
        .ok (s.store.memory.patch address.toNat (terminated text)) := Memory.write_eq_ok.mpr ⟨hfits, rfl⟩
    generalize s.store.memory.patch address.toNat (terminated text) = m at hwrite
    have hread : (guestText datum address).run { s with store.memory := m } =
        (.ok (String.ofList (arriving text)), { s with store.memory := m }) := run_guestText_of_write hwrite
    refine ⟨m, hwrite, ?_⟩
    rw [hread, arriving_eq hzero, String.ofList_toList]
  · intro bytes hread hmalformed
    have hshown := Text.Utf8.replacement_mem_repair hmalformed
    refine ⟨_, run_guestText_of_hasText (Memory.readTerminated_eq_ok.mp hread), by simpa using hshown, ?_⟩
    intro sent m place t hclean hwrite
    refine ⟨_, run_guestText_of_write hwrite, ?_⟩
    intro hsame
    rw [String.ofList_inj] at hsame
    rw [hsame] at hshown
    exact hclean (mem_of_mem_arriving hshown)

/-- A scene whose memory holds three bytes that would spell a surrogate. -/
def garbled : Scene Unit := { store := ⟨Memory.tiny.patch 5 [0xED, 0xA0, 0x80], 0, (), {}⟩ }

theorem garbled_not_wellFormed : ¬ Text.Utf8.WellFormed [0xED, 0xA0, 0x80] := by
  rintro ⟨text, hencoded⟩
  have hdecoded := Text.Utf8.decode?_encode text
  rw [hencoded, show Text.Utf8.decode? [0xED, 0xA0, 0x80] = none by decide +kernel] at hdecoded
  cases hdecoded

/-- Characters of one to four bytes are read back where the surrogate was, which was read as no text at all. -/
theorem garbled_faithful :
    (∃ m, garbled.store.memory.write 5 (terminated "aé€😀") = .ok m ∧
      (guestText .operands 5).run { garbled with store.memory := m } =
        (.ok "aé€😀", { garbled with store.memory := m })) ∧
    ∃ text, (guestText .operands 5).run garbled = (.ok text, garbled) ∧ '\uFFFD' ∈ text.toList := by
  obtain ⟨hreadBack, hrepaired⟩ := guestText_faithful .operands 5 garbled
  refine ⟨hreadBack "aé€😀" (by decide) (by decide +kernel), ?_⟩
  obtain ⟨text, hrun, hmem, -⟩ := hrepaired [0xED, 0xA0, 0x80] (by decide +kernel) garbled_not_wellFormed
  exact ⟨text, hrun, hmem⟩

end DecoderHost.Session

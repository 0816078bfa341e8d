import DecoderHost.Guest.StandIn
import DecoderHost.Proofs.Memory.Terminated
import DecoderHost.Text.Utf8

/-!
# The texts of the stand-in

The stand-in keeps its texts below its heap, each with a zero byte after it. They are there from the start,
and nothing that is written into the heap changes them.
-/

namespace DecoderHost.StandIn

/-- The first address of the heap. -/
def heapBase : Nat := 4096

/-- A text as it lies in memory. -/
def stored (text : String) : List UInt8 := text.toUTF8.toList ++ [0]

/-- Does a memory hold the stand-in's texts? -/
def HasTexts (m : Memory) : Prop :=
  ∀ entry ∈ texts, m.slice entry.1 (stored entry.2).length = stored entry.2

/-- A phrase gives the place and the size of a text. -/
def Phrase.Spells (p : Phrase) (text : String) : Prop :=
  (p.address.toNat, text) ∈ texts ∧ p.size = (stored text).length

instance (p : Phrase) (text : String) : Decidable (p.Spells text) := inferInstanceAs (Decidable (_ ∧ _))

theorem texts_below_heap : ∀ entry ∈ texts, entry.1 + (stored entry.2).length ≤ heapBase := by
  decide +kernel

/-- The texts by themselves. -/
def phrases : List String := texts.map Prod.snd

theorem length_stored_le : ∀ text ∈ phrases, (stored text).length ≤ 32 := by
  decide +kernel

theorem nonzero_of_phrase : ∀ text ∈ phrases, 0 ∉ text.toUTF8.toList := by
  decide +kernel

/-- A text is the same when it comes back from the guest. -/
theorem repair_phrase : ∀ text ∈ phrases, String.ofList (Text.Utf8.repair text.toUTF8.toList) = text := by
  decide +kernel

/-! ## The memory at the start -/

/-- The blocks of the fresh memory that are not zero. -/
def blocks : List (Nat × List UInt8) := texts.map fun entry => (entry.1, stored entry.2)

/-- Put blocks into a memory. -/
def place (m : Memory) (blocks : List (Nat × List UInt8)) : Memory :=
  blocks.foldl (fun m block => m.patch block.1 block.2) m

theorem size_place (m : Memory) (blocks : List (Nat × List UInt8)) : (place m blocks).size = m.size := by
  induction blocks generalizing m with
  | nil => rfl
  | cons block rest ih => rw [place, List.foldl_cons, ← place, ih, Memory.size_patch]

theorem slice_place_above {m : Memory} {blocks : List (Nat × List UInt8)} {start length : Nat}
    (habove : ∀ block ∈ blocks, start + length ≤ block.1) :
    (place m blocks).slice start length = m.slice start length := by
  induction blocks generalizing m with
  | nil => rfl
  | cons block rest ih =>
    rw [place, List.foldl_cons, ← place, ih fun b hb => habove b (List.mem_cons_of_mem _ hb),
      Memory.slice_patch_disjoint (.inl (habove block List.mem_cons_self))]

/-- Blocks that are put into a memory side by side are all there in the end. -/
theorem slice_place {blocks : List (Nat × List UInt8)} {m : Memory}
    (hbeside : blocks.Pairwise fun a b => a.1 + a.2.length ≤ b.1)
    (hfits : ∀ block ∈ blocks, block.1 + block.2.length ≤ m.size) :
    ∀ block ∈ blocks, (place m blocks).slice block.1 block.2.length = block.2 := by
  induction blocks generalizing m with
  | nil => simp
  | cons first rest ih =>
    obtain ⟨habove, hbeside⟩ := List.pairwise_cons.mp hbeside
    intro block hblock
    rw [place, List.foldl_cons, ← place]
    -- The first block is put in place first, and what comes after it lies above it.
    rcases List.mem_cons.mp hblock with rfl | hblock
    · rw [slice_place_above habove, Memory.slice_patch_self (hfits block List.mem_cons_self)]
    · apply ih hbeside ?_ block hblock
      intro b hb
      rw [Memory.size_patch]
      exact hfits b (List.mem_cons_of_mem _ hb)

theorem initialMemory_eq : initialMemory = place (Memory.ofPages 1) blocks := by
  rw [place, blocks, List.foldl_map]
  rfl

theorem size_ofPages_one : (Memory.ofPages 1).size = 65536 := by
  simp [Memory.ofPages, Memory.zeroed, Memory.size, ByteArray.size, Memory.maxPages, Memory.pageSize]

@[simp] theorem size_initialMemory : initialMemory.size = 65536 := by
  rw [initialMemory_eq, size_place, size_ofPages_one]

theorem hasTexts_initialMemory : HasTexts initialMemory := by
  have hbeside : blocks.Pairwise fun a b => a.1 + a.2.length ≤ b.1 := by decide +kernel
  have hfits : ∀ block ∈ blocks, block.1 + block.2.length ≤ (Memory.ofPages 1).size := by
    rw [size_ofPages_one]
    decide +kernel
  intro entry hentry
  rw [initialMemory_eq]
  exact slice_place hbeside hfits (entry.1, stored entry.2) (List.mem_map_of_mem hentry)

/-! ## Later memories -/

theorem HasTexts.patch {m : Memory} (h : HasTexts m) {start : Nat} (source : List UInt8)
    (hstart : heapBase ≤ start) : HasTexts (m.patch start source) := by
  intro entry hentry
  have hbelow := texts_below_heap entry hentry
  rw [Memory.slice_patch_disjoint (.inl (by omega))]
  exact h entry hentry

theorem Phrase.Spells.mem_phrases {p : Phrase} {text : String} (h : p.Spells text) : text ∈ phrases :=
  List.mem_map_of_mem h.1

theorem Phrase.Spells.length_le {p : Phrase} {text : String} (h : p.Spells text) : p.size ≤ 32 := by
  rw [h.2]
  exact length_stored_le text h.mem_phrases

theorem Phrase.Spells.fits {p : Phrase} {text : String} (h : p.Spells text) :
    p.address.toNat + p.size ≤ heapBase := by
  rw [h.2]
  exact texts_below_heap _ h.1

/-- A copy of a phrase is the text that the phrase spells. -/
theorem HasTexts.slice_phrase {m : Memory} (h : HasTexts m) {p : Phrase} {text : String}
    (hp : p.Spells text) : m.slice p.address.toNat p.size = stored text := by
  rw [hp.2]
  exact h _ hp.1

/-- Where a stored text lies, it is found as a text. -/
theorem hasText_of_stored {m : Memory} {start : Nat} {text : String} (htext : text ∈ phrases)
    (hslice : m.slice start (stored text).length = stored text)
    (hfits : start + (stored text).length ≤ m.size) :
    m.HasText start text.toUTF8.toList :=
  Memory.hasText_of_slice (nonzero_of_phrase text htext) hfits hslice

end DecoderHost.StandIn

import DecoderHost.Proofs.CommandLine.Written

/-!
# Reading a command line

The words are read from left to right, and a value may be pending while the next word is read. If reading succeeds, it
makes no difference whether the value was looked at when it was met or later (`read_eq_ok_iff_settle`). So what is read
are the items that the words spell, one after another (`read_eq_ok_iff`).
-/

namespace DecoderHost

theorem Target.ofName?_name (target : Target) : ofName? target.name = some target := by
  cases target <;> rfl

theorem Target.name_of_ofName? {name : String} {target : Target} (h : ofName? name = some target) :
    target.name = name := by
  simpa using List.find?_some h

namespace CommandLine

/-- A computation in two parts succeeds if both do. -/
theorem bind_eq_ok {ε α β : Type} {x : Except ε α} {f : α → Except ε β} {b : β} :
    (x >>= f) = .ok b ↔ ∃ a, x = .ok a ∧ f a = .ok b := by
  cases x with
  | error e => simp [bind, Except.bind]
  | ok a => simp [bind, Except.bind]

namespace Draft

/-- Take all words, and look at the value that is pending then. -/
def read (draft : Draft) (words : List String) : Except UsageError Draft := draft.takeAll words >>= settle

/-- Take an item. -/
def add (draft : Draft) : Item → Except UsageError Draft
  | .value name value => draft.set name value
  | .standardInput => if draft.standardInput then .error .conflict else .ok { draft with standardInput := true }
  | .opcode text => if draft.opcode.isSome then .error .unknownArgument else .ok { draft with opcode := some text }

variable {draft next settled final : Draft} {name : ValueOption} {value text : String} {words rest : List String}
  {items : List Item}

/-! ## A pending value -/

/-- **How an option gets its value.** It does not have one, and the value names a target or is a path that is not
empty. -/
inductive Sets (draft : Draft) : ValueOption → String → Draft → Prop
  | arch (target : Target) (hfree : draft.target = none) :
    Sets draft .arch target.name { draft with target := some target }
  | module {path : String} (hfree : draft.modulePath = none) (hpath : path ≠ "") :
    Sets draft .module path { draft with modulePath := some path }
  | config {path : String} (hfree : draft.configPath = none) (hpath : path ≠ "") :
    Sets draft .config path { draft with configPath := some path }

theorem set_eq_ok_iff : draft.set name value = .ok next ↔ draft.Sets name value next := by
  constructor
  · intro h
    unfold set path at h
    cases name with
    | arch =>
      dsimp only at h
      split at h
      · cases h
      · next hfree =>
        split at h
        · next target htarget =>
          obtain rfl := Target.name_of_ofName? htarget
          cases h
          exact .arch target (Option.not_isSome_iff_eq_none.mp hfree)
        · cases h
    | module =>
      dsimp only at h
      split at h
      · cases h
      · next hfree =>
        split at h
        · cases h
        · next hpath =>
          cases h
          exact .module (Option.not_isSome_iff_eq_none.mp hfree) (by simpa using hpath)
    | config =>
      dsimp only at h
      split at h
      · cases h
      · next hfree =>
        split at h
        · cases h
        · next hpath =>
          cases h
          exact .config (Option.not_isSome_iff_eq_none.mp hfree) (by simpa using hpath)
  · intro h
    cases h with
    | arch target hfree => simp [set, hfree, Target.ofName?_name]
    | module hfree hpath | config hfree hpath => simp [set, path, hfree, hpath, Except.map]

theorem settle_of_none (h : draft.pending = none) : draft.settle = .ok draft := by
  unfold settle
  rw [h]

/-- Nothing is pending once the value has been looked at, and an opcode is there or not as before. -/
theorem settle_eq_ok (h : draft.settle = .ok settled) :
    settled.opcode = draft.opcode ∧ settled.pending = none := by
  unfold settle at h
  split at h
  · next hpending =>
    cases h
    exact ⟨rfl, hpending⟩
  · cases h
  · cases set_eq_ok_iff.mp h <;> exact ⟨rfl, rfl⟩

theorem takeOpcode_of_none (h : draft.pending = none) (text : String) :
    draft.takeOpcode text = draft.add (.opcode text) := by
  unfold takeOpcode add
  rw [settle_of_none h]
  rfl

theorem takeOpcode_eq_ok_iff_settle (draft : Draft) :
    draft.takeOpcode text = .ok next ↔
      ∃ settled, draft.settle = .ok settled ∧ settled.takeOpcode text = .ok next := by
  unfold takeOpcode
  cases hsettle : draft.settle with
  | error e =>
    simp only [Except.map]
    split <;> simp
  | ok settled =>
    obtain ⟨hopcode, hpending⟩ := settle_eq_ok hsettle
    simp [hopcode, settle_of_none hpending]

/-- Whether a value is looked at before a word that follows it or with it makes no difference. -/
theorem take_eq_ok_iff_settle (draft : Draft) (hready : ∀ name, draft.pending ≠ some (name, none)) {word : Word}
    (hword : word ≠ .terminator) :
    draft.take word = .ok next ↔ ∃ settled, draft.settle = .ok settled ∧ settled.take word = .ok next := by
  cases word with
  | terminator => exact absurd rfl hword
  | plain text =>
    have htake : draft.take (.plain text) = draft.takeOpcode text := by
      unfold take
      dsimp only
      split
      · next hpending => exact absurd hpending (hready _)
      · rfl
    rw [htake, takeOpcode_eq_ok_iff_settle draft]
    refine exists_congr fun settled => and_congr_right fun hsettle => ?_
    simp [take, (settle_eq_ok hsettle).2]
  | flagWithValue | unknown => simp [take]
  | option name value =>
    cases hsettle : draft.settle with
    | error e => cases value <;> simp [take, hsettle, Except.map]
    | ok settled =>
      have hsettled := settle_of_none (settle_eq_ok hsettle).2
      cases value <;> simp [take, hsettle, hsettled]
  | standardInput | help | version =>
    cases hsettle : draft.settle with
    | error e => simp [take, hsettle]
    | ok settled =>
      have hsettled := settle_of_none (settle_eq_ok hsettle).2
      simp [take, hsettle, hsettled]

/-! ## Words -/

theorem read_cons {word : String} {w : Word} (hof : Word.of word = w) (hw : w ≠ .terminator) (rest : List String) :
    draft.read (word :: rest) = draft.take w >>= fun next => next.read rest := by
  unfold read
  rw [takeAll, hof]
  cases w with
  | terminator => exact absurd rfl hw
  | _ =>
    dsimp only
    split <;> simp_all [bind, Except.bind]

theorem read_terminator (rest : List String) : draft.read ("--" :: rest) = draft.takeRest rest >>= settle := by
  unfold read
  rw [takeAll, Word.Written.terminator.of_eq]

theorem takeRest_cons (text : String) (rest : List String) :
    draft.takeRest (text :: rest) = draft.takeOpcode text >>= fun next => next.takeRest rest := by
  rw [takeRest]
  cases draft.takeOpcode text <;> rfl

/-- **A value may be looked at at once.** If the pending option has its value, reading on succeeds exactly if the value
is accepted and reading on from there succeeds. -/
theorem read_eq_ok_iff_settle (hready : ∀ name, draft.pending ≠ some (name, none)) :
    draft.read words = .ok final ↔ ∃ settled, draft.settle = .ok settled ∧ settled.read words = .ok final := by
  -- Only what comes last settles twice, which is settling once.
  have hnil : draft.settle = .ok final ↔ ∃ settled, draft.settle = .ok settled ∧ settled.settle = .ok final := by
    constructor
    · intro h
      exact ⟨final, h, settle_of_none (settle_eq_ok h).2⟩
    · rintro ⟨settled, hsettle, h⟩
      rw [settle_of_none (settle_eq_ok hsettle).2] at h
      rw [hsettle, h]
  cases words with
  | nil => exact hnil
  | cons word rest =>
    by_cases hword : Word.of word = .terminator
    · obtain rfl : word = "--" := by
        cases Word.written_of_eq hword id
        rfl
      cases rest with
      | nil =>
        simp only [read_terminator, takeRest]
        exact hnil
      | cons text rest =>
        simp only [read_terminator, takeRest_cons, bind_eq_ok, takeOpcode_eq_ok_iff_settle draft]
        grind
    · simp only [read_cons rfl hword, bind_eq_ok, take_eq_ok_iff_settle draft hready hword]
      grind

/-! ## Items -/

theorem add_eq_ok {item : Item} (h : draft.add item = .ok next) : next.pending = draft.pending := by
  cases item with
  | value name value => cases set_eq_ok_iff.mp h <;> rfl
  | standardInput | opcode text =>
    unfold add at h
    dsimp only at h
    split at h <;> cases h
    rfl

theorem take_plain (hsettled : draft.pending = none) (text : String) :
    draft.take (.plain text) = draft.add (.opcode text) := by
  rw [take, hsettled]
  exact takeOpcode_of_none hsettled text

theorem take_attached (hsettled : draft.pending = none) (name : ValueOption) (value : String) :
    draft.take (.option name (some value)) = draft.add (.value name value) := by
  rw [take, settle_of_none hsettled]
  rfl

theorem take_apart (hsettled : draft.pending = none) (name : ValueOption) :
    draft.take (.option name none) = .ok { draft with pending := some (name, none) } := by
  rw [take, settle_of_none hsettled]
  rfl

theorem take_standardInput (hsettled : draft.pending = none) :
    draft.take .standardInput = draft.add .standardInput := by
  rw [take, settle_of_none hsettled]
  rfl

/-- Words behind a terminator are opcodes. -/
theorem takeRest_eq_ok_iff (hsettled : draft.pending = none) (texts : List String) :
    draft.takeRest texts >>= settle = .ok final ↔ (texts.map Item.opcode).foldlM add draft = .ok final := by
  induction texts generalizing draft with
  | nil =>
    show draft.settle = .ok final ↔ _
    rw [settle_of_none hsettled]
    rfl
  | cons text rest ih =>
    rw [takeRest_cons, bind_assoc, List.map_cons, List.foldlM_cons, takeOpcode_of_none hsettled, bind_eq_ok, bind_eq_ok]
    exact exists_congr fun next => and_congr_right fun hadd => ih ((add_eq_ok hadd).trans hsettled)

/-- An option that waits for its value gets it from the next word, which must be plain. -/
theorem read_waiting (hwaiting : draft.pending = some (name, none)) :
    draft.read words = .ok final ↔ ∃ value after, words = value :: after ∧ IsPlain value ∧
      { draft with pending := some (name, some value) }.read after = .ok final := by
  have hsettle : draft.settle = .error .invalidValue := by
    unfold settle
    rw [hwaiting]
  cases words with
  | nil =>
    have hread : draft.read [] = .error .invalidValue := hsettle
    simp [hread]
  | cons word rest =>
    by_cases hplain : IsPlain word
    · have htake : draft.take (.plain word) = .ok { draft with pending := some (name, some word) } := by
        unfold take
        rw [hwaiting]
      rw [read_cons (Word.Written.plain hplain).of_eq (by simp), htake]
      constructor
      · intro h
        exact ⟨word, rest, rfl, hplain, h⟩
      · rintro ⟨value, after, heq, -, h⟩
        obtain ⟨rfl, rfl⟩ := List.cons.inj heq
        exact h
    · refine iff_of_false ?_ fun ⟨value, after, heq, hvalue, _⟩ => hplain ((List.cons.inj heq).1 ▸ hvalue)
      cases hof : Word.of word with
      | plain text =>
        cases Word.written_of_eq hof id with
        | plain htext => exact absurd htext hplain
      | terminator =>
        cases Word.written_of_eq hof id
        rw [read_terminator]
        cases rest with
        | nil => simp [takeRest, bind, Except.bind, hsettle]
        | cons text rest =>
          rw [takeRest_cons, bind_assoc, bind_eq_ok]
          rintro ⟨next, htake, -⟩
          obtain ⟨settled, hsettled, -⟩ := (takeOpcode_eq_ok_iff_settle draft).mp htake
          rw [hsettle] at hsettled
          cases hsettled
      | option name value =>
        rw [read_cons hof (by simp)]
        cases value <;> simp [take, hsettle, Except.map, bind, Except.bind]
      | _ =>
        rw [read_cons hof (by simp)]
        simp [take, hsettle, bind, Except.bind]

/-- An option and the next word are an item. -/
theorem read_apart_iff (hsettled : draft.pending = none) (name : ValueOption) :
    { draft with pending := some (name, none) }.read words = .ok final ↔ ∃ value after, words = value :: after ∧
      IsPlain value ∧ (draft.add (.value name value) >>= fun next => next.read after) = .ok final := by
  have hsame : { draft with pending := none } = draft := by rw [← hsettled]
  have hsettle (value : String) :
      { draft with pending := some (name, some value) }.settle = draft.add (.value name value) :=
    congrArg (fun d : Draft => d.set name value) hsame
  rw [read_waiting rfl]
  refine exists_congr fun value => exists_congr fun after => and_congr_right fun _ => and_congr_right fun _ => ?_
  rw [read_eq_ok_iff_settle (by simp), hsettle, bind_eq_ok]

/-- An item is taken, and then what the words behind it spell. -/
theorem add_then_iff {rest : List String} (hsettled : draft.pending = none) (item : Item)
    (hrest : ∀ next : Draft, next.pending = none →
      (next.read rest = .ok final ↔ ∃ more, Spells more rest ∧ more.foldlM add next = .ok final)) :
    (draft.add item >>= fun next => next.read rest) = .ok final ↔
      ∃ items, (∃ more, Spells more rest ∧ items = item :: more) ∧ items.foldlM add draft = .ok final := by
  rw [bind_eq_ok]
  constructor
  · rintro ⟨next, hadd, hread⟩
    obtain ⟨more, hmore, hfold⟩ := (hrest next ((add_eq_ok hadd).trans hsettled)).mp hread
    refine ⟨item :: more, ⟨more, hmore, rfl⟩, ?_⟩
    rw [List.foldlM_cons, bind_eq_ok]
    exact ⟨next, hadd, hfold⟩
  · rintro ⟨_, ⟨more, hmore, rfl⟩, hfold⟩
    rw [List.foldlM_cons, bind_eq_ok] at hfold
    obtain ⟨next, hadd, hfold⟩ := hfold
    exact ⟨next, hadd, (hrest next ((add_eq_ok hadd).trans hsettled)).mpr ⟨more, hmore, hfold⟩⟩

/-- **What is read are the items.** Reading words succeeds just if they spell items that are taken one after another. -/
theorem read_eq_ok_iff (hsettled : draft.pending = none) :
    draft.read words = .ok final ↔ ∃ items, Spells items words ∧ items.foldlM add draft = .ok final := by
  -- An option may take the word behind it too, so that the induction is on the number of words.
  induction hlength : words.length using Nat.strongRecOn generalizing words draft with
  | ind n ih =>
    cases words with
    | nil =>
      have hread : draft.read [] = .ok draft := settle_of_none hsettled
      rw [hread]
      constructor
      · intro h
        exact ⟨[], .nil, h⟩
      · rintro ⟨items, hitems, h⟩
        cases hitems
        exact h
    | cons word rest =>
      have hshorter (after : List String) (hafter : after.length ≤ rest.length) (next : Draft)
          (hnext : next.pending = none) :
          next.read after = .ok final ↔ ∃ more, Spells more after ∧ more.foldlM add next = .ok final :=
        ih after.length (by rw [← hlength]; exact Nat.lt_succ_of_le hafter) hnext rfl
      have hrest := hshorter rest (Nat.le_refl _)
      rw [exists_congr fun items => and_congr_left fun _ => spells_cons_iff]
      cases hof : Word.of word with
      | plain text =>
        rw [read_cons hof (by simp), take_plain hsettled]
        exact add_then_iff hsettled _ hrest
      | terminator =>
        cases Word.written_of_eq hof id
        rw [read_terminator, takeRest_eq_ok_iff hsettled]
        constructor
        · intro h
          exact ⟨_, rfl, h⟩
        · rintro ⟨_, rfl, h⟩
          exact h
      | option name value =>
        rw [read_cons hof (by simp)]
        cases value with
        | some value =>
          rw [take_attached hsettled]
          exact add_then_iff hsettled _ hrest
        | none =>
          rw [take_apart hsettled]
          refine (read_apart_iff hsettled name).trans ⟨?_, ?_⟩
          · rintro ⟨value, after, rfl, hvalue, hread⟩
            obtain ⟨_, ⟨more, hmore, rfl⟩, hfold⟩ :=
              (add_then_iff hsettled _ (hshorter after (Nat.le_succ _))).mp hread
            exact ⟨_, ⟨value, after, more, rfl, hvalue, hmore, rfl⟩, hfold⟩
          · rintro ⟨_, ⟨value, after, more, rfl, hvalue, hmore, rfl⟩, hfold⟩
            refine ⟨value, after, rfl, hvalue, (add_then_iff hsettled _ (hshorter after (Nat.le_succ _))).mpr ?_⟩
            exact ⟨_, ⟨more, hmore, rfl⟩, hfold⟩
      | standardInput =>
        rw [read_cons hof (by simp), take_standardInput hsettled]
        exact add_then_iff hsettled _ hrest
      | help | version | flagWithValue | unknown =>
        rw [read_cons hof (by simp)]
        simp [take, settle_of_none hsettled, Word.Begins, bind, Except.bind]

end Draft

end CommandLine

end DecoderHost

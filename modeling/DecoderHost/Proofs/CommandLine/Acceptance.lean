import DecoderHost.Program
import DecoderHost.Proofs.CommandLine.Reading

/-!
# What is accepted on a command line

What becomes of the items of a command line tells how often each of them is given, but not in which order
(`foldlM_add_eq_ok_iff`). So a command line is accepted exactly if its words spell items that ask for something
(`parse_eq_ok_iff`). The main statement is `parse_sound`: what an accepted command line gives, and what it mentions how
often.
-/

namespace DecoderHost

theorem Target.name_inj {target other : Target} : target.name = other.name ↔ target = other := by
  cases target <;> cases other <;> decide

namespace CommandLine

/-- An option that names a target must name one that there is, and one that gives a path must not leave it empty. -/
def Item.Acceptable : Item → Prop
  | .value .arch name => ∃ target : Target, target.name = name
  | .value .module path | .value .config path => path ≠ ""
  | .standardInput | .opcode _ => True

namespace Draft

variable {draft next final : Draft} {item : Item} {items more : List Item}

/-- The values that options have got. -/
def given (draft : Draft) : ValueOption → List String
  | .arch => (draft.target.map Target.name).toList
  | .module => draft.modulePath.toList
  | .config => draft.configPath.toList

/-- **What becomes of items.** One draft leads to another: what the second has is what the first has and what the items
give. -/
structure Gathers (draft : Draft) (items : List Item) (final : Draft) : Prop where
  acceptable : ∀ item ∈ items, item.Acceptable
  values : ∀ name, draft.given name ++ values name items = final.given name
  opcodes : draft.opcode.toList ++ opcodes items = final.opcode.toList
  standardInput : draft.standardInput.toNat + items.count .standardInput = final.standardInput.toNat
  pending : final.pending = draft.pending

theorem length_given_le (draft : Draft) (name : ValueOption) : (draft.given name).length ≤ 1 := by
  cases name with
  | arch => cases h : draft.target <;> simp [given, h]
  | module => cases h : draft.modulePath <;> simp [given, h]
  | config => cases h : draft.configPath <;> simp [given, h]

/-- Taking an item gathers it. -/
theorem gathers_of_add (h : draft.add item = .ok next) : Gathers draft [item] next := by
  cases item with
  | value name value =>
    cases set_eq_ok_iff.mp h with
    | arch target hfree =>
      refine ⟨by simp [Item.Acceptable], fun name => ?_, by simp [CommandLine.opcodes], by simp, rfl⟩
      cases name <;> simp [given, CommandLine.values, hfree]
    | module hfree hpath | config hfree hpath =>
      refine ⟨by simpa [Item.Acceptable] using hpath, fun name => ?_, by simp [CommandLine.opcodes], by simp, rfl⟩
      cases name <;> simp [given, CommandLine.values, hfree]
  | standardInput =>
    unfold add at h
    dsimp only at h
    split at h
    · cases h
    · next hfree =>
      cases h
      refine ⟨by simp [Item.Acceptable], fun name => ?_, by simp [CommandLine.opcodes], by simp [hfree], rfl⟩
      cases name <;> simp [given, CommandLine.values]
  | opcode text =>
    unfold add at h
    dsimp only at h
    split at h
    · cases h
    · next hfree =>
      rw [Option.not_isSome_iff_eq_none] at hfree
      cases h
      refine ⟨by simp [Item.Acceptable], fun name => ?_, by simp [CommandLine.opcodes, hfree], by simp, rfl⟩
      cases name <;> simp [given, CommandLine.values]

/-- An option for which a value is gathered does not have one yet. -/
theorem Gathers.given_eq_nil {name : ValueOption} {value : String}
    (h : Gathers draft (.value name value :: items) final) : draft.given name = [] := by
  have hvalues := congrArg List.length (h.values name)
  have hlength := length_given_le final name
  simp only [CommandLine.values, List.length_append, List.filterMap_cons, if_pos, List.length_cons] at hvalues
  exact List.length_eq_zero_iff.mp (by omega)

/-- The first of the items that are gathered is taken. -/
theorem Gathers.exists_add (h : Gathers draft (item :: items) final) : ∃ next, draft.add item = .ok next := by
  have hacceptable := h.acceptable item List.mem_cons_self
  cases item with
  | value name value =>
    have hfree := h.given_eq_nil
    cases name with
    | arch =>
      obtain ⟨target, rfl⟩ := hacceptable
      exact ⟨_, set_eq_ok_iff.mpr (.arch target (by simpa [given] using hfree))⟩
    | module => exact ⟨_, set_eq_ok_iff.mpr (.module (by simpa [given] using hfree) hacceptable)⟩
    | config => exact ⟨_, set_eq_ok_iff.mpr (.config (by simpa [given] using hfree) hacceptable)⟩
  | standardInput =>
    have hcount := h.standardInput
    have hle := Bool.toNat_le final.standardInput
    have hfree : draft.standardInput = false := by
      cases hfree : draft.standardInput with
      | false => rfl
      | true =>
        rw [hfree, List.count_cons_self] at hcount
        simp only [Bool.toNat_true] at hcount
        omega
    simp [add, hfree]
  | opcode text =>
    have hopcodes := congrArg List.length h.opcodes
    have hle : final.opcode.toList.length ≤ 1 := by cases final.opcode <;> simp
    have hfree : draft.opcode = none := by
      cases hfree : draft.opcode with
      | none => rfl
      | some other =>
        simp only [hfree, CommandLine.opcodes, List.filterMap_cons, List.length_append, List.length_cons,
          Option.toList_some, List.length_nil] at hopcodes
        omega
    simp [add, hfree]

theorem Gathers.trans (h : Gathers draft items next) (h' : Gathers next more final) :
    Gathers draft (items ++ more) final where
  acceptable item hitem := (List.mem_append.mp hitem).elim (h.acceptable item) (h'.acceptable item)
  values name := by
    rw [CommandLine.values, List.filterMap_append, ← List.append_assoc]
    exact (congrArg (· ++ _) (h.values name)).trans (h'.values name)
  opcodes := by
    rw [CommandLine.opcodes, List.filterMap_append, ← List.append_assoc]
    exact (congrArg (· ++ _) h.opcodes).trans h'.opcodes
  standardInput := by
    have hfirst := h.standardInput
    have hsecond := h'.standardInput
    rw [List.count_append]
    omega
  pending := h'.pending.trans h.pending

/-- What the first item leaves is gathered from the others. -/
theorem Gathers.of_cons (h : Gathers draft (item :: items) final) (hfirst : Gathers draft [item] next) :
    Gathers next items final where
  acceptable other hother := h.acceptable other (List.mem_cons_of_mem _ hother)
  values name := by
    rw [← hfirst.values, ← h.values, List.append_assoc, CommandLine.values, CommandLine.values, ← List.filterMap_append]
    rfl
  opcodes := by
    rw [← hfirst.opcodes, ← h.opcodes, List.append_assoc, CommandLine.opcodes, CommandLine.opcodes,
      ← List.filterMap_append]
    rfl
  standardInput := by
    have hall := h.standardInput
    have hone := hfirst.standardInput
    rw [← List.singleton_append, List.count_append] at hall
    omega
  pending := h.pending.trans hfirst.pending.symm

/-- What may be there is known from the list of what is there. -/
theorem eq_of_toList_eq {α : Type} {a b : Option α} (h : a.toList = b.toList) : a = b := by
  rw [← a.head?_toList, h, b.head?_toList]

/-- A draft to which nothing is added stays as it is. -/
theorem gathers_nil_iff : Gathers draft [] final ↔ draft = final := by
  constructor
  · intro h
    have hgiven (name : ValueOption) : draft.given name = final.given name :=
      (List.append_nil _).symm.trans (h.values name)
    have htarget : draft.target = final.target :=
      Option.map_injective (fun _ _ => Target.name_inj.mp) (eq_of_toList_eq (hgiven .arch))
    have hmodule : draft.modulePath = final.modulePath := eq_of_toList_eq (hgiven .module)
    have hconfig : draft.configPath = final.configPath := eq_of_toList_eq (hgiven .config)
    have hopcode : draft.opcode = final.opcode := eq_of_toList_eq ((List.append_nil _).symm.trans h.opcodes)
    have hinput : draft.standardInput = final.standardInput := by
      have hcount : draft.standardInput.toNat = final.standardInput.toNat := h.standardInput
      rw [Bool.eq_iff_iff, ← Bool.toNat_eq_one, hcount, Bool.toNat_eq_one]
    have hpending := h.pending
    cases draft
    cases final
    simp_all
  · rintro rfl
    exact ⟨by simp, fun name => by simp [CommandLine.values], by simp [CommandLine.opcodes], by simp, rfl⟩

/-- Items are taken one after another just if what becomes of them is gathered. -/
theorem foldlM_add_eq_ok_iff : items.foldlM add draft = .ok final ↔ Gathers draft items final := by
  induction items generalizing draft with
  | nil =>
    rw [gathers_nil_iff]
    exact iff_of_eq (Except.ok.injEq ..)
  | cons item rest ih =>
    rw [List.foldlM_cons, bind_eq_ok]
    constructor
    · rintro ⟨next, hadd, hfold⟩
      exact (gathers_of_add hadd).trans (ih.mp hfold)
    · intro h
      obtain ⟨next, hadd⟩ := h.exists_add
      exact ⟨next, hadd, ih.mpr (h.of_cons (gathers_of_add hadd))⟩

/-! ## What is asked for -/

theorem moduleOr_eq_ok_iff {fromEnvironment path : Option String} :
    draft.moduleOr fromEnvironment = .ok path ↔
      (∃ given, draft.modulePath = some given ∧ path = some given) ∨
      (draft.modulePath = none ∧ path = fromEnvironment ∧ fromEnvironment ≠ some "") := by
  unfold moduleOr Draft.path
  cases draft.modulePath with
  | some given => simp [eq_comm]
  | none =>
    cases fromEnvironment with
    | none => simp [eq_comm]
    | some value =>
      by_cases hvalue : value = ""
      · simp [hvalue]
      · simp only [String.isEmpty_iff, hvalue]
        simp [hvalue, eq_comm]

theorem source_eq_ok_iff {source : CodeSource} :
    draft.source = .ok source ↔
      (∃ text, source = .opcode text ∧ draft.opcode = some text ∧ draft.standardInput = false) ∨
      (source = .standardInput ∧ draft.opcode = none ∧ draft.standardInput = true) := by
  unfold Draft.source
  cases draft.opcode <;> cases draft.standardInput <;> simp [eq_comm]

theorem finish_eq_ok_iff {fromEnvironment : Option String} {arguments : Arguments} :
    draft.finish fromEnvironment = .ok arguments ↔ draft.moduleOr fromEnvironment = .ok arguments.modulePath ∧
      draft.source = .ok arguments.source ∧ draft.target = some arguments.target ∧
      draft.configPath = arguments.configPath := by
  unfold finish
  obtain ⟨target, source, modulePath, configPath⟩ := arguments
  cases draft.moduleOr fromEnvironment with
  | error e => simp [bind, Except.bind]
  | ok path =>
    cases draft.source with
    | error e => simp [bind, Except.bind]
    | ok given =>
      cases draft.target with
      | none => simp [bind, Except.bind]
      | some name =>
        simp only [bind, Except.bind, pure, Except.pure, Except.ok.injEq, Arguments.mk.injEq, Option.some.injEq]
        constructor <;> rintro ⟨hfirst, hsource, hlast, hconfig⟩ <;> exact ⟨hlast, hsource, hfirst, hconfig⟩

end Draft

/-- **What a command line asks for** that gives these items, if the environment names this module. -/
structure AskedBy (items : List Item) (fromEnvironment : Option String) (arguments : Arguments) : Prop where
  target : values .arch items = [arguments.target.name]
  source : (∃ text, arguments.source = .opcode text ∧ opcodes items = [text] ∧ items.count .standardInput = 0) ∨
    (arguments.source = .standardInput ∧ opcodes items = [] ∧ items.count .standardInput = 1)
  config : values .config items = arguments.configPath.toList
  config_ne : arguments.configPath ≠ some ""
  module : (∃ path, values .module items = [path] ∧ arguments.modulePath = some path) ∨
    (values .module items = [] ∧ arguments.modulePath = fromEnvironment)
  module_ne : arguments.modulePath ≠ some ""

theorem mem_values {name : ValueOption} {value : String} {items : List Item} :
    value ∈ values name items ↔ .value name value ∈ items := by
  unfold values
  rw [List.mem_filterMap]
  constructor
  · rintro ⟨item, hitem, hvalue⟩
    cases item with
    | value other given =>
      dsimp only at hvalue
      split at hvalue
      · next hname =>
        cases hvalue
        exact hname ▸ hitem
      · cases hvalue
    | standardInput | opcode => cases hvalue
  · intro h
    exact ⟨_, h, by simp⟩

/-- What is gathered from nothing is asked for, once nothing is missing. -/
theorem askedBy_of_gathers {items : List Item} {draft : Draft} (h : Draft.Gathers {} items draft)
    {fromEnvironment : Option String} {arguments : Arguments} (hfinish : draft.finish fromEnvironment = .ok arguments) :
    AskedBy items fromEnvironment arguments := by
  obtain ⟨hmodule, hsource, htarget, hconfig⟩ := Draft.finish_eq_ok_iff.mp hfinish
  have hgiven (name : ValueOption) : values name items = draft.given name := by
    rw [← h.values name]
    cases name <;> rfl
  have hopcodes : opcodes items = draft.opcode.toList := h.opcodes
  have hinput : items.count .standardInput = draft.standardInput.toNat := by simpa using h.standardInput
  have hacceptable (name : ValueOption) {value : String} (hvalue : value ∈ draft.given name) :
      (Item.value name value).Acceptable := h.acceptable _ (mem_values.mp (hgiven name ▸ hvalue))
  refine ⟨by simp [hgiven, Draft.given, htarget], ?_, hconfig ▸ hgiven .config, ?_, ?_, ?_⟩
  · rcases Draft.source_eq_ok_iff.mp hsource with ⟨text, hsource, hopcode, hnot⟩ | ⟨hsource, hopcode, his⟩
    · exact .inl ⟨text, hsource, by simp [hopcodes, hopcode], by simp [hinput, hnot]⟩
    · exact .inr ⟨hsource, by simp [hopcodes, hopcode], by simp [hinput, his]⟩
  · intro hempty
    exact hacceptable .config (by simp [Draft.given, hconfig, hempty]) rfl
  · rcases Draft.moduleOr_eq_ok_iff.mp hmodule with ⟨path, hdraft, hmodule⟩ | ⟨hdraft, hmodule, hne⟩
    · exact .inl ⟨path, by simp [hgiven, Draft.given, hdraft], hmodule⟩
    · exact .inr ⟨by simp [hgiven, Draft.given, hdraft], hmodule⟩
  · rcases Draft.moduleOr_eq_ok_iff.mp hmodule with ⟨path, hdraft, hmodule⟩ | ⟨hdraft, hmodule, hne⟩
    · intro hempty
      exact hacceptable .module (by simp [Draft.given, hdraft, ← hmodule, hempty]) rfl
    · exact hmodule ▸ hne

/-- What is asked for is gathered, and nothing is missing. -/
theorem AskedBy.exists_gathers {items : List Item} {fromEnvironment : Option String} {arguments : Arguments}
    (h : AskedBy items fromEnvironment arguments) :
    ∃ draft, Draft.Gathers {} items draft ∧ draft.finish fromEnvironment = .ok arguments := by
  obtain ⟨htarget, hsource, hconfig, hconfig_ne, hmodule, hmodule_ne⟩ := h
  -- The paths that are given come from the items, and not from the environment.
  let draft : Draft := {
    target := some arguments.target
    opcode := (opcodes items).head?
    standardInput := items.count .standardInput = 1
    modulePath := (values .module items).head?
    configPath := arguments.configPath }
  have hvalues (name : ValueOption) : values name items = draft.given name := by
    cases name with
    | arch => exact htarget
    | config => exact hconfig
    | module =>
      rcases hmodule with ⟨path, hvalues, -⟩ | ⟨hvalues, -⟩ <;> simp [draft, Draft.given, hvalues]
  refine ⟨draft, ⟨?_, ?_, ?_, ?_, rfl⟩, Draft.finish_eq_ok_iff.mpr ⟨?_, ?_, rfl, rfl⟩⟩
  · intro item hitem
    cases item with
    | value name value =>
      have hvalue := hvalues name ▸ mem_values.mpr hitem
      cases name with
      | arch =>
        have hname : arguments.target.name = value := by simpa [draft, Draft.given, eq_comm] using hvalue
        exact ⟨_, hname⟩
      | module =>
        rcases hmodule with ⟨path, hvalues, hpath⟩ | ⟨hvalues, -⟩
        · have hvalue : value = path := by simpa [draft, Draft.given, hvalues] using hvalue
          exact fun hempty => hmodule_ne (hpath.trans (congrArg some (hvalue.symm.trans hempty)))
        · simp [draft, Draft.given, hvalues] at hvalue
      | config =>
        have hpath : arguments.configPath = some value := by simpa [draft, Draft.given] using hvalue
        exact fun hempty => hconfig_ne (hempty ▸ hpath)
    | standardInput | opcode => trivial
  · intro name
    rw [← hvalues name]
    cases name <;> rfl
  · rcases hsource with ⟨text, -, hopcodes, -⟩ | ⟨-, hopcodes, -⟩ <;> simp [draft, hopcodes]
  · rcases hsource with ⟨text, -, -, hcount⟩ | ⟨-, -, hcount⟩ <;> simp [draft, hcount]
  · refine Draft.moduleOr_eq_ok_iff.mpr ?_
    rcases hmodule with ⟨path, hvalues, hpath⟩ | ⟨hvalues, hpath⟩
    · exact .inl ⟨path, by simp [draft, hvalues], hpath⟩
    · exact .inr ⟨by simp [draft, hvalues], hpath, hpath ▸ hmodule_ne⟩
  · refine Draft.source_eq_ok_iff.mpr ?_
    rcases hsource with ⟨text, hsource, hopcodes, hcount⟩ | ⟨hsource, hopcodes, hcount⟩
    · exact .inl ⟨text, hsource, by simp [draft, hopcodes], by simp [draft, hcount]⟩
    · exact .inr ⟨hsource, by simp [draft, hopcodes], by simp [draft, hcount]⟩

theorem parse_eq (words : List String) (fromEnvironment : Option String) :
    parse words fromEnvironment = Draft.read {} words >>= fun draft => draft.finish fromEnvironment := by
  unfold parse Draft.read
  rw [bind_assoc]

/-- **Acceptance.** A command line is accepted just if its words spell items that ask for something. -/
theorem parse_eq_ok_iff {words : List String} {fromEnvironment : Option String} {arguments : Arguments} :
    parse words fromEnvironment = .ok arguments ↔
      ∃ items, Spells items words ∧ AskedBy items fromEnvironment arguments := by
  rw [parse_eq, bind_eq_ok]
  simp only [Draft.read_eq_ok_iff (show ({} : Draft).pending = none from rfl), Draft.foldlM_add_eq_ok_iff]
  constructor
  · rintro ⟨draft, ⟨items, hitems, hgathers⟩, hfinish⟩
    exact ⟨items, hitems, askedBy_of_gathers hgathers hfinish⟩
  · rintro ⟨items, hitems, hasked⟩
    obtain ⟨draft, hgathers, hfinish⟩ := hasked.exists_gathers
    exact ⟨draft, ⟨items, hitems, hgathers⟩, hfinish⟩

/-- **An accepted command line is sound.** Its words spell items in one way, and these give the target once, the source
of the code once, and the module and the configuration file at most once. So before the terminator every option is
mentioned as often as it is given, an opcode is one of the words, and a module that is not given is that of the
environment. Neither path is empty. If a command line is not accepted, the program ends with status zero if help or the
version is wished for, and with status one otherwise. -/
theorem parse_sound (words : List String) (fromEnvironment : Option String) :
    (∀ arguments, parse words fromEnvironment = .ok arguments →
      ∃ items, (∀ items', Spells items' words ↔ items' = items) ∧ AskedBy items fromEnvironment arguments ∧
        (beforeTerminator words).countP (Mentions .arch) = 1 ∧
        (beforeTerminator words).countP (Mentions .module) ≤ 1 ∧
        (beforeTerminator words).countP (Mentions .config) ≤ 1 ∧
        (match arguments.source with
          | .opcode text => text ∈ words ∧ opcodes items = [text] ∧ (beforeTerminator words).count "--stdin" = 0
          | .standardInput => opcodes items = [] ∧ (beforeTerminator words).count "--stdin" = 1)) ∧
    ∀ e, parse words fromEnvironment = .error e → ∀ (σ ω : Type) (loader : Loader σ ω) (files : ω)
      (logFilter : Option String) (input : List UInt8), loader.environment.modulePath = fromEnvironment →
      (Program.run loader files logFilter input words).status = if e = .help ∨ e = .version then 0 else 1 := by
  constructor
  · intro arguments h
    obtain ⟨items, hitems, hasked⟩ := parse_eq_ok_iff.mp h
    refine ⟨items, fun items' => ⟨hitems.unique, fun heq => heq ▸ hitems⟩, hasked, ?_, ?_, ?_, ?_⟩
    · rw [hitems.countP_mentions, hasked.target]
      rfl
    · rw [hitems.countP_mentions]
      rcases hasked.module with ⟨path, hvalues, -⟩ | ⟨hvalues, -⟩ <;> simp [hvalues]
    · rw [hitems.countP_mentions, hasked.config]
      cases arguments.configPath <;> simp
    · rw [hitems.count_stdin]
      rcases hasked.source with ⟨text, hsource, hopcodes, hcount⟩ | ⟨hsource, hopcodes, hcount⟩
      · rw [hsource]
        exact ⟨hitems.opcodes_sublist.subset (hopcodes ▸ List.mem_singleton_self text), hopcodes, hcount⟩
      · rw [hsource]
        exact ⟨hopcodes, hcount⟩
  · rintro e h σ ω loader files logFilter input rfl
    have hrun : Program.run loader files logFilter input words = Program.usageReport e := by
      unfold Program.run
      rw [h]
    rw [hrun]
    cases e <;> simp [Program.usageReport, UsageError.exitStatus]

/-- A loader that finds no file. -/
def barrenLoader : Loader Unit Unit where
  environment := {}
  cache := CacheSteps.unavailable
  contentsOf _ _ := .error .notFound
  compiler _ _ := .error ""

/-- An opcode that begins with a dash stands behind the terminator, and the module that is given wins over that of the
environment. To wish for help is no failure, and to give no target is one. -/
theorem dashed_parse_sound :
    parse ["--module=m", "--arch", "amd64", "--", "-90"] (some "n") = .ok ⟨.amd64, .opcode "-90", some "m", none⟩ ∧
      (∃ items, Spells items ["--module=m", "--arch", "amd64", "--", "-90"] ∧
        AskedBy items (some "n") ⟨.amd64, .opcode "-90", some "m", none⟩) ∧
      (Program.run barrenLoader () none [] ["--help"]).status = 0 ∧
      (Program.run barrenLoader () none [] ["--stdin"]).status = 1 := by
  have hparse : parse ["--module=m", "--arch", "amd64", "--", "-90"] (some "n") =
      .ok ⟨.amd64, .opcode "-90", some "m", none⟩ := rfl
  obtain ⟨items, hitems, hasked, -⟩ := (parse_sound _ _).1 _ hparse
  have hhelp := (parse_sound ["--help"] none).2 .help rfl Unit Unit barrenLoader () none [] rfl
  have hstdin := (parse_sound ["--stdin"] none).2 .missingArgument rfl Unit Unit barrenLoader () none [] rfl
  exact ⟨hparse, ⟨items, (hitems items).mpr rfl, hasked⟩, hhelp, hstdin⟩

end CommandLine

end DecoderHost

import DecoderHost.Proofs.CommandLine.Acceptance

/-!
# Command lines in any order

What is asked for can be written in many ways: the items may stand in any order, and each option may stand in one word
with its value or before it. The main statement is `parse_rendered`: all these command lines are accepted and ask for
the same, and the module of the environment counts only if none is given.
-/

namespace DecoderHost.CommandLine

/-! ## Rendering -/

/-- The words for an item; the value of an option stands in one word with it or in the next. -/
def Item.words (attached : Bool) : Item → List String
  | .value name text => if attached then [name.flag ++ "=" ++ text] else [name.flag, text]
  | .standardInput => ["--stdin"]
  | .opcode text => [text]

/-- The words for items one after another. -/
def render (given : List (Item × Bool)) : List String := given.flatMap fun (item, attached) => item.words attached

/-- The item that names a source of code. -/
def sourceItem : CodeSource → Item
  | .opcode text => .opcode text
  | .standardInput => .standardInput

/-- The items that ask for something, in one order. -/
def itemsFor (arguments : Arguments) : List Item :=
  .value .arch arguments.target.name :: sourceItem arguments.source ::
    ((arguments.modulePath.map (.value .module)).toList ++ (arguments.configPath.map (.value .config)).toList)

/-- A text is not empty and does not begin with a dash. -/
def IsBare (text : String) : Prop := text ≠ "" ∧ text.toList.head? ≠ some '-'

instance (text : String) : Decidable (IsBare text) := inferInstanceAs (Decidable (_ ∧ _))

/-- All texts of what is asked for are bare. -/
structure AllBare (arguments : Arguments) : Prop where
  opcode : ∀ text, arguments.source = .opcode text → IsBare text
  module : ∀ path ∈ arguments.modulePath, IsBare path
  config : ∀ path ∈ arguments.configPath, IsBare path

/-- What stands in a word of its own is not taken for an option. -/
def Item.Plain : Item → Prop
  | .value _ text | .opcode text => IsPlain text
  | .standardInput => True

theorem spells_words {item : Item} (hitem : item.Plain) (attached : Bool) {items : List Item} {words : List String}
    (h : Spells items words) : Spells (item :: items) (item.words attached ++ words) := by
  cases item with
  | value name text =>
    cases attached with
    | true => exact .attached name text h
    | false => exact .apart name hitem h
  | standardInput => exact .standardInput h
  | opcode text => exact .opcode hitem h

/-- Words that are rendered spell the items. -/
theorem spells_render {given : List (Item × Bool)} (h : ∀ item ∈ given.map Prod.fst, item.Plain) :
    Spells (given.map Prod.fst) (render given) := by
  induction given with
  | nil => exact .nil
  | cons first rest ih =>
    obtain ⟨hfirst, hrest⟩ := List.forall_mem_cons.mp h
    exact spells_words hfirst first.2 (ih hrest)

/-! ## Orders -/

/-- The order of the items makes no difference. -/
theorem AskedBy.perm {items items' : List Item} {fromEnvironment : Option String} {arguments : Arguments}
    (h : AskedBy items fromEnvironment arguments) (hperm : items'.Perm items) :
    AskedBy items' fromEnvironment arguments := by
  have hvalues (name : ValueOption) : (values name items').Perm (values name items) := hperm.filterMap _
  have hopcodes : (opcodes items').Perm (opcodes items) := hperm.filterMap _
  have hcount : items'.count .standardInput = items.count .standardInput := hperm.count_eq _
  obtain ⟨htarget, hsource, hconfig, hconfig_ne, hmodule, hmodule_ne⟩ := h
  refine ⟨?_, ?_, ?_, hconfig_ne, ?_, hmodule_ne⟩
  · exact List.perm_singleton.mp (htarget ▸ hvalues .arch)
  · rcases hsource with ⟨text, hsource, htext, hnone⟩ | ⟨hsource, hnone, hone⟩
    · exact .inl ⟨text, hsource, List.perm_singleton.mp (htext ▸ hopcodes), hcount.trans hnone⟩
    · exact .inr ⟨hsource, List.perm_nil.mp (hnone ▸ hopcodes), hcount.trans hone⟩
  · have hperm := hconfig ▸ hvalues .config
    cases hpath : arguments.configPath with
    | none => exact List.perm_nil.mp (by simpa [hpath] using hperm)
    | some path => exact List.perm_singleton.mp (by simpa [hpath] using hperm)
  · rcases hmodule with ⟨path, hpath, hmodule⟩ | ⟨hnone, hmodule⟩
    · exact .inl ⟨path, List.perm_singleton.mp (hpath ▸ hvalues .module), hmodule⟩
    · exact .inr ⟨List.perm_nil.mp (hnone ▸ hvalues .module), hmodule⟩

theorem askedBy_itemsFor {arguments : Arguments} (h : AllBare arguments) :
    AskedBy (itemsFor arguments) none arguments := by
  obtain ⟨hopcode, hmodule, hconfig⟩ := h
  obtain ⟨target, source, modulePath, configPath⟩ := arguments
  refine ⟨?_, ?_, ?_, fun hempty => (hconfig "" hempty).1 rfl, ?_, fun hempty => (hmodule "" hempty).1 rfl⟩
  · cases source <;> cases modulePath <;> cases configPath <;> simp [itemsFor, sourceItem, values]
  · cases source with
    | opcode text =>
      exact .inl ⟨text, rfl, by cases modulePath <;> cases configPath <;> simp [itemsFor, sourceItem, opcodes]⟩
    | standardInput =>
      exact .inr ⟨rfl, by cases modulePath <;> cases configPath <;> simp [itemsFor, sourceItem, opcodes]⟩
  · cases source <;> cases modulePath <;> cases configPath <;> simp [itemsFor, sourceItem, values]
  · cases modulePath with
    | none => exact .inr ⟨by cases source <;> cases configPath <;> simp [itemsFor, sourceItem, values], rfl⟩
    | some path =>
      exact .inl ⟨path, by cases source <;> cases configPath <;> simp [itemsFor, sourceItem, values], rfl⟩

theorem plain_of_mem_itemsFor {arguments : Arguments} (h : AllBare arguments) :
    ∀ item ∈ itemsFor arguments, item.Plain := by
  intro item hitem
  rcases List.mem_cons.mp hitem with rfl | hitem
  · cases arguments.target <;> exact .inr (by decide)
  rcases List.mem_cons.mp hitem with rfl | hitem
  · cases hsource : arguments.source with
    | opcode text => exact .inr (h.opcode text hsource).2
    | standardInput => trivial
  rcases List.mem_append.mp hitem with hitem | hitem
  · obtain ⟨path, hpath, rfl⟩ := Option.map_eq_some_iff.mp (Option.mem_toList.mp hitem)
    exact .inr (h.module path hpath).2
  · obtain ⟨path, hpath, rfl⟩ := Option.map_eq_some_iff.mp (Option.mem_toList.mp hitem)
    exact .inr (h.config path hpath).2

/-- The environment is looked at when all words have been read. -/
theorem parse_of_parse_none {words : List String} {arguments : Arguments} (h : parse words none = .ok arguments)
    (fromEnvironment : Option String) :
    parse words fromEnvironment =
      match arguments.modulePath, fromEnvironment with
      | none, some path => if path = "" then .error .invalidValue else .ok { arguments with modulePath := some path }
      | _, _ => .ok arguments := by
  rw [parse_eq, bind_eq_ok] at h
  obtain ⟨draft, hread, hfinish⟩ := h
  obtain ⟨hmodule, hsource, htarget, hconfig⟩ := Draft.finish_eq_ok_iff.mp hfinish
  have hparse : parse words fromEnvironment = draft.finish fromEnvironment := by
    rw [parse_eq, hread]
    rfl
  rw [hparse]
  rcases Draft.moduleOr_eq_ok_iff.mp hmodule with ⟨path, hdraft, hpath⟩ | ⟨hdraft, hpath, -⟩
  · rw [hpath]
    exact Draft.finish_eq_ok_iff.mpr
      ⟨Draft.moduleOr_eq_ok_iff.mpr (.inl ⟨path, hdraft, hpath⟩), hsource, htarget, hconfig⟩
  · rw [hpath]
    cases fromEnvironment with
    | none => exact hfinish
    | some path =>
      dsimp only
      split
      · next hempty =>
        have hmoduleOr : draft.moduleOr (some path) = .error .invalidValue := by
          simp [Draft.moduleOr, Draft.path, hdraft, hempty]
        simp [Draft.finish, hmoduleOr, bind, Except.bind]
      · next hne =>
        have hmoduleOr : draft.moduleOr (some path) = .ok (some path) :=
          Draft.moduleOr_eq_ok_iff.mpr (.inr ⟨hdraft, rfl, by simpa using hne⟩)
        exact Draft.finish_eq_ok_iff.mpr ⟨hmoduleOr, hsource, htarget, hconfig⟩

/-- **Command lines in any order.** Whatever is asked for, with texts that are not empty and do not begin with a dash,
the items may be given in any order, and each option in one word with its value or before it: the command line is
accepted, and asks for just that. If it gives no module, that of the environment is taken, and an environment that
leaves it empty is refused. -/
theorem parse_rendered {arguments : Arguments} (h : AllBare arguments) {given : List (Item × Bool)}
    (horder : (given.map Prod.fst).Perm (itemsFor arguments)) (fromEnvironment : Option String) :
    parse (render given) fromEnvironment =
      match arguments.modulePath, fromEnvironment with
      | none, some path => if path = "" then .error .invalidValue else .ok { arguments with modulePath := some path }
      | _, _ => .ok arguments := by
  have hplain : ∀ item ∈ given.map Prod.fst, item.Plain := fun item hitem =>
    plain_of_mem_itemsFor h item (horder.mem_iff.mp hitem)
  have hparse : parse (render given) none = .ok arguments :=
    parse_eq_ok_iff.mpr ⟨_, spells_render hplain, (askedBy_itemsFor h).perm horder⟩
  exact parse_of_parse_none hparse fromEnvironment

/-- The options stand out of their order, two of them in one word with their values. The value of one holds an equals
sign itself, and the environment leaves the module empty that is given here. -/
theorem shuffled_parse_rendered :
    parse ["--config=c=d", "--stdin", "--module", "m.wasm", "--arch=amd64"] (some "") =
      .ok ⟨.amd64, .standardInput, some "m.wasm", some "c=d"⟩ := by
  have hbare : AllBare ⟨.amd64, .standardInput, some "m.wasm", some "c=d"⟩ := by
    constructor
    · rintro text ⟨⟩
    · rintro path ⟨⟩
      decide
    · rintro path ⟨⟩
      decide
  have horder : (List.map Prod.fst [(Item.value .config "c=d", true), (.standardInput, false),
      (.value .module "m.wasm", false), (.value .arch "amd64", true)]).Perm
      (itemsFor ⟨.amd64, .standardInput, some "m.wasm", some "c=d"⟩) := by decide
  exact parse_rendered hbare horder (some "")

/-- An environment that leaves the module empty makes a command line fail that gives none. -/
theorem parse_of_empty_environment :
    parse ["--arch", "arm64", "90"] none = .ok ⟨.arm64, .opcode "90", none, none⟩ ∧
      parse ["--arch", "arm64", "90"] (some "") ≠ .ok ⟨.arm64, .opcode "90", none, none⟩ ∧
      parse ["--arch", "arm64", "90"] (some "") = .error .invalidValue := by
  have hrefused : parse ["--arch", "arm64", "90"] (some "") = .error .invalidValue := rfl
  refine ⟨rfl, ?_, hrefused⟩
  rw [hrefused]
  exact fun h => nomatch h

end DecoderHost.CommandLine

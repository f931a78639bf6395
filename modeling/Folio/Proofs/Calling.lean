import Folio.Proofs.Declaration
import Folio.Proofs.Document
import Folio.Proofs.Encoding
import Folio.Proofs.Unicode.LowerCase
import Folio.Table.Builtin

/-!
# Calling what a template declares

A heading looks its word up in requoted form, and a declaration is entered under its name as it is
written. The two meet where the name is a quoted text, as its table compares names: the heading
whose word is that quoted text finds the last declaration of the name and is carried out with its
body. An `@` heading asks for a setting before it asks for a macro.

The outcome of a page depends on the tables only through the bodies of requoted words. So a body
under a name that no requoted word is equal to, or a macro under the name of a setting, is used by
no heading.
-/

namespace Folio

open Entity

namespace NameCase

theorem any_isBlank_key (nameCase : NameCase) (name : Text) :
    (nameCase.key name).any Unicode.isBlank = name.any Unicode.isBlank := by
  cases nameCase with
  | exact => rfl
  | folded => exact Unicode.any_isBlank_lowerCase name

theorem key_eq_nil_iff {nameCase : NameCase} {name : Text} :
    nameCase.key name = [] ↔ name = [] := by
  cases nameCase with
  | exact => rfl
  | folded => exact Unicode.lowerCase_eq_nil_iff

/-- A name that is compared as equal to a usable name is usable: it is not empty and holds no
whitespace. -/
theorem usable_of_key_eq {nameCase : NameCase} {name other : Text}
    (same : nameCase.key name = nameCase.key other) (nonempty : other ≠ [])
    (noBlank : ∀ c ∈ other, Unicode.isBlank c = false) :
    name ≠ [] ∧ ∀ c ∈ name, Unicode.isBlank c = false := by
  constructor
  · rintro rfl
    exact nonempty (key_eq_nil_iff.1 (same.symm.trans (key_eq_nil_iff.2 rfl)))
  · have sameBlanks := any_isBlank_key nameCase name
    have plain : other.any Unicode.isBlank = false := by simpa using noBlank
    rw [same, any_isBlank_key, plain] at sameBlanks
    simpa using sameBlanks.symm

end NameCase

/-! ## Headings of one word -/

namespace Command

/-- The command that a heading of a sigil and a quoted text spells. -/
def call (sigil : Sigil) (text : Text) : Command :=
  ⟨sigil, quote text, []⟩

/-- A body with an empty argument and a word filled in. -/
def filled (word body : Text) : Text :=
  Placeholder.fill (.ofList [("ARGS".toList, []), ("CMD".toList, word)])
    ["ARGS".toList, "CMD".toList] body

variable {text : Text}

@[simp]
theorem name_call (sigil : Sigil) : (call sigil text).name = quote text :=
  requote_quote text

@[simp]
theorem value_call (sigil : Sigil) : (call sigil text).value = [] :=
  requote_eq_nil_iff.2 rfl

/-- A quoted text without whitespace spells a command whatever the sigil. -/
theorem readsAs_call {sign : Char} {sigil : Sigil} (isSign : Sigil.ofChar? sign = some sigil)
    (noBlank : ∀ c ∈ quote text, Unicode.isBlank c = false) :
    Text.ReadsAs command? (written '1' sign (quote text)) (call sigil text) := by
  have oneLine : '\n' ∉ quote text := fun member => absurd (noBlank _ member) (by decide)
  rw [call, ← ofText_word sigil noBlank]
  apply readsAs_written (by decide) isSign (not_mem_quote rfl text) oneLine
  intro c first
  exact noBlank c (List.mem_of_head? first)

/-- A heading that names a box opens it. -/
theorem carryOutCommands_call_box {tables : Tables} {body : Text} (nonempty : quote text ≠ [])
    (noBlank : ∀ c ∈ quote text, Unicode.isBlank c = false)
    (found : tables.boxes.find? (quote text) = some body) :
    carryOutCommands tables (written '1' '~' (quote text)) =
      { html := Text.replaceAll "@ARGS@".toList [] (splitBox body).1
        settings := []
        notices := [] } := by
  have opens : (call .box text).opened? tables = some body := by
    rw [opened?, if_pos ⟨rfl, nonempty⟩, name_call, found]
  rw [carryOutCommands_of_readsAs (readsAs_call rfl noBlank), respond_of_opened opens, value_call]
  rfl

theorem expansion_call (sigil : Sigil) (body : Text) :
    (call sigil text).expansion body = filled (quote text) body := by
  rw [expansion, value_call, name_call, filled]

/-- A heading that names a setting records it with an empty argument. -/
theorem carryOutCommands_call_setting {tables : Tables} {body : Text}
    (noBlank : ∀ c ∈ quote text, Unicode.isBlank c = false)
    (found : tables.settings.find? (quote text) = some body) :
    carryOutCommands tables (written '1' '@' (quote text)) =
      { html := filled (quote text) body
        settings := [(Unicode.lowerCase (quote text), [])]
        notices := [] } := by
  have response : (call .expand text).respond tables none =
      { fragment := filled (quote text) body
        setting := some (Unicode.lowerCase (quote text), [])
        held := none } := by
    have sigil : (call .expand text).sigil = .expand := rfl
    simp only [respond, sigil, respondExpand, name_call, value_call, found, expansion_call]
  rw [carryOutCommands_of_readsAs (readsAs_call rfl noBlank), response]
  rfl

/-- A heading that names a macro and no setting is replaced by the body of the macro. -/
theorem carryOutCommands_call_macro {tables : Tables} {body : Text}
    (noBlank : ∀ c ∈ quote text, Unicode.isBlank c = false)
    (noSetting : tables.settings.find? (quote text) = none)
    (found : tables.macros.find? (quote text) = some body) :
    carryOutCommands tables (written '1' '@' (quote text)) =
      { html := filled (quote text) body
        settings := []
        notices := [] } := by
  have response : (call .expand text).respond tables none =
      { fragment := filled (quote text) body, held := none } := by
    have sigil : (call .expand text).sigil = .expand := rfl
    simp only [respond, sigil, respondExpand, name_call, noSetting, found, expansion_call]
  rw [carryOutCommands_of_readsAs (readsAs_call rfl noBlank), response]
  rfl

end Command

/-- A declaration whose name is compared as equal to a quoted text is called by the heading of that
quoted text: the heading finds the last declaration of the name and is replaced by its body without
a notice. Where a setting has the name of a macro, the heading finds the setting instead. -/
theorem carryOutCommands_of_declaration (defaults : Defaults) {template text : Text}
    {declaration : Declaration} (accepted : declaration ∈ (harvest template).declarations)
    (spelled : declaration.kind.table.nameCase.key (quote text) =
      declaration.kind.table.nameCase.key declaration.name) :
    let declarations := (harvest template).declarations
    let tables := defaults.tables.declareAll declarations
    let word := quote text
    word ≠ [] ∧ (∀ c ∈ word, Unicode.isBlank c = false) ∧
      ∃ body,
        (Declaration.last? declaration.kind.table declaration.name declarations).map
          Declaration.body = some body ∧
        (tables.of declaration.kind.table).find? declaration.name = some body ∧
        (declaration.kind = .box ∨ declaration.kind = .aside →
          carryOutCommands tables (Command.written '1' '~' word) =
            { html := Text.replaceAll "@ARGS@".toList [] (splitBox body).1
              settings := []
              notices := [] }) ∧
        (declaration.kind = .setting →
          carryOutCommands tables (Command.written '1' '@' word) =
            { html := Command.filled word body
              settings := [(Unicode.lowerCase declaration.name, [])]
              notices := [] }) ∧
        (declaration.kind = .plain → tables.settings.find? declaration.name = none →
          carryOutCommands tables (Command.written '1' '@' word) =
            { html := Command.filled word body
              settings := []
              notices := [] }) ∧
        (declaration.kind = .plain →
          ∀ setting, tables.settings.find? declaration.name = some setting →
            carryOutCommands tables (Command.written '1' '@' word) =
              { html := Command.filled word setting
                settings := [(Unicode.lowerCase declaration.name, [])]
                notices := [] }) := by
  intro declarations tables word
  obtain ⟨declaredNonempty, declaredNoBlank⟩ := name_of_mem_harvest accepted
  obtain ⟨nonempty, noBlank⟩ :=
    NameCase.usable_of_key_eq spelled declaredNonempty declaredNoBlank
  obtain ⟨last, isLast⟩ := Declaration.exists_last? accepted
  have stored : (tables.of declaration.kind.table).find? declaration.name = some last.body := by
    rw [find?_declareAll, isLast]
    rfl
  have key : ∀ kind name, (tables.of kind).key name = kind.nameCase.key name := by
    intro kind name
    rw [Table.key, nameCase_declareAll]
  have found : (tables.of declaration.kind.table).find? word = some last.body := by
    rw [← stored]
    exact Table.find?_congr (by rw [key, key, spelled])
  -- The names of settings and of macros are compared alike.
  have folded (isFolded : declaration.kind.table.nameCase = .folded) :
      Unicode.lowerCase word = Unicode.lowerCase declaration.name := by
    rw [isFolded] at spelled
    exact spelled
  have sameSetting (isMacro : declaration.kind = .plain) :
      tables.settings.find? word = tables.settings.find? declaration.name := by
    have lowered := folded (by rw [isMacro]; rfl)
    exact Table.find?_congr
      ((key .settings word).trans (lowered.trans (key .settings declaration.name).symm))
  refine ⟨nonempty, noBlank, last.body, ?_, stored, ?_, ?_, ?_, ?_⟩
  · rw [isLast]
    rfl
  · intro isBox
    have table : declaration.kind.table = .boxes := by
      rcases isBox with isBox | isBox <;> rw [isBox] <;> rfl
    rw [table] at found
    exact Command.carryOutCommands_call_box nonempty noBlank found
  · intro isSetting
    rw [isSetting] at found
    rw [Command.carryOutCommands_call_setting noBlank found, folded (by rw [isSetting]; rfl)]
  · intro isMacro noSetting
    rw [isMacro] at found
    exact Command.carryOutCommands_call_macro noBlank ((sameSetting isMacro).trans noSetting) found
  · intro isMacro setting isSetting
    rw [Command.carryOutCommands_call_setting noBlank ((sameSetting isMacro).trans isSetting),
      folded (by rw [isMacro]; rfl)]

/-- A box is called with its ampersand quoted and a setting in small letters. Of two macros that
differ in letter case the last one is found, and in place of a macro the setting of its name. -/
theorem carryOutCommands_of_declarations_in_turn :
    let template := "<aside data-name=\"Q&amp;A\" class=\"box\">[@BODY@]</aside>".toList ++
      "<aside data-name=\"ÉTÉ\" class=\"setting\">(@CMD@)</aside>".toList ++
      "<aside data-name=\"hint\">first</aside>".toList ++
      "<aside data-name=\"Hint\">@CMD@!</aside>".toList ++
      "<aside data-name=\"Parent\">X</aside>".toList
    let declarations := (harvest template).declarations
    let tables := Defaults.builtin.tables.declareAll declarations
    let box : Declaration := ⟨.box, "Q&amp;A".toList, "[@BODY@]".toList⟩
    let setting : Declaration := ⟨.setting, "ÉTÉ".toList, "(@CMD@)".toList⟩
    let plain : Declaration := ⟨.plain, "hint".toList, "first".toList⟩
    let hidden : Declaration := ⟨.plain, "Parent".toList, "X".toList⟩
    (box ∈ declarations ∧
      carryOutCommands tables "<h1>~Q&amp;A</h1>".toList = ⟨"[".toList, [], []⟩) ∧
    (setting ∈ declarations ∧ Unicode.lowerCase "été".toList = Unicode.lowerCase "ÉTÉ".toList ∧
      carryOutCommands tables "<h1>@été</h1>".toList =
        ⟨"(été)".toList, [("été".toList, [])], []⟩) ∧
    (plain ∈ declarations ∧ tables.settings.find? "hint".toList = none ∧
      carryOutCommands tables "<h1>@HINT</h1>".toList = ⟨"HINT!".toList, [], []⟩) ∧
    (hidden ∈ declarations ∧
      tables.settings.find? "Parent".toList = some "<!-- @CMD@ @ARGS@ -->".toList ∧
      carryOutCommands tables "<h1>@parent</h1>".toList =
        ⟨"<!-- parent  -->".toList, [("parent".toList, [])], []⟩) := by
  intro template
  have harvested : (harvest template).declarations =
      [⟨.box, "Q&amp;A".toList, "[@BODY@]".toList⟩, ⟨.setting, "ÉTÉ".toList, "(@CMD@)".toList⟩,
        ⟨.plain, "hint".toList, "first".toList⟩, ⟨.plain, "Hint".toList, "@CMD@!".toList⟩,
        ⟨.plain, "Parent".toList, "X".toList⟩] := by
    decide +kernel
  have called text declaration :=
    @carryOutCommands_of_declaration Defaults.builtin template text declaration
  rw [harvested] at called ⊢
  intro declarations tables box setting plain hidden
  have isBox : box ∈ declarations := by decide +kernel
  have isSetting : setting ∈ declarations := by decide +kernel
  have isMacro : plain ∈ declarations := by decide +kernel
  have isHidden : hidden ∈ declarations := by decide +kernel
  have sameCase : Unicode.lowerCase "été".toList = Unicode.lowerCase "ÉTÉ".toList := by
    decide +kernel
  have noSetting : tables.settings.find? "hint".toList = none := by decide +kernel
  have hides : tables.settings.find? "Parent".toList = some "<!-- @CMD@ @ARGS@ -->".toList := by
    decide +kernel
  refine ⟨⟨isBox, ?_⟩, ⟨isSetting, sameCase, ?_⟩, ⟨isMacro, noSetting, ?_⟩, ⟨isHidden, hides, ?_⟩⟩
  · obtain ⟨-, -, body, declared, -, answer, -⟩ := called "Q&A".toList box isBox (by decide)
    have last : (Declaration.last? .boxes box.name declarations).map Declaration.body =
        some "[@BODY@]".toList := by decide +kernel
    obtain rfl := Option.some.inj (declared.symm.trans last)
    exact (answer (.inl rfl)).trans (by decide +kernel)
  · obtain ⟨-, -, body, declared, -, -, answer, -⟩ :=
      called "été".toList setting isSetting (by decide +kernel)
    have last : (Declaration.last? .settings setting.name declarations).map Declaration.body =
        some "(@CMD@)".toList := by decide +kernel
    obtain rfl := Option.some.inj (declared.symm.trans last)
    exact (answer rfl).trans (by decide +kernel)
  · obtain ⟨-, -, body, declared, -, -, -, answer, -⟩ :=
      called "HINT".toList plain isMacro (by decide +kernel)
    have last : (Declaration.last? .macros plain.name declarations).map Declaration.body =
        some "@CMD@!".toList := by decide +kernel
    obtain rfl := Option.some.inj (declared.symm.trans last)
    exact (answer rfl noSetting).trans (by decide +kernel)
  · obtain ⟨-, -, -, -, -, -, -, -, answer⟩ :=
      called "parent".toList hidden isHidden (by decide +kernel)
    exact (answer rfl _ hides).trans (by decide +kernel)

/-! ## Bodies that no heading finds -/

/-- Tables that no heading can tell apart: they have the same boxes and settings for requoted words,
and the same macros for those that name no setting. -/
structure Tables.AgreeOnHeadings (first second : Tables) : Prop where
  boxes : ∀ word, first.boxes.find? (requote word) = second.boxes.find? (requote word)
  settings : ∀ word, first.settings.find? (requote word) = second.settings.find? (requote word)
  macros : ∀ word, first.settings.find? (requote word) = none →
    first.macros.find? (requote word) = second.macros.find? (requote word)

section Agree

variable {first second : Tables} (agree : first.AgreeOnHeadings second)
include agree

theorem Command.respond_congr (held : Option Text) (command : Command) :
    command.respond first held = command.respond second held := by
  have sameBox : first.boxes.find? command.name = second.boxes.find? command.name :=
    agree.boxes command.word
  have sameSetting : first.settings.find? command.name = second.settings.find? command.name :=
    agree.settings command.word
  cases isBox : command.sigil with
  | box =>
    rw [respond, respond, isBox]
    simp only [respondBox, sameBox]
  | expand =>
    rw [respond, respond, isBox]
    simp only [respondExpand, ← sameSetting]
    cases free : first.settings.find? command.name with
    | some body => rfl
    | none =>
      have sameMacro : first.macros.find? command.name = second.macros.find? command.name :=
        agree.macros command.word free
      simp only [sameMacro]

theorem respondAll_congr (held : Option Text) (pieces : List (Piece Command)) :
    respondAll first held pieces = respondAll second held pieces := by
  induction pieces generalizing held with
  | nil => rfl
  | cons piece pieces inductionHypothesis =>
    cases piece with
    | plain c => rw [respondAll, respondAll, inductionHypothesis]
    | item command =>
      rw [respondAll, respondAll, Command.respond_congr agree, inductionHypothesis]

/-- Every page comes to the same under tables that no heading can tell apart. -/
theorem carryOutCommands_congr (html : Text) :
    carryOutCommands first html = carryOutCommands second html := by
  rw [carryOutCommands, respondAll_congr agree, carryOutCommands]

end Agree

/-- A box under a name that is no requoted text is used by no heading of any page. -/
theorem carryOutCommands_declare_of_requote_ne {tables : Tables} {name : Text}
    (isExact : tables.boxes.nameCase = .exact) (notRequoted : requote name ≠ name)
    (body html : Text) :
    carryOutCommands (tables.declare .boxes name body) html = carryOutCommands tables html := by
  have agree : (tables.declare .boxes name body).AgreeOnHeadings tables := by
    refine ⟨?_, fun _ => rfl, fun _ _ => rfl⟩
    intro word
    have different : requote word ≠ name := by
      rintro rfl
      exact notRequoted (requote_quote (decode word))
    have keyed : tables.boxes.key (requote word) ≠ tables.boxes.key name := by
      simpa [Table.key, isExact, NameCase.key] using different
    exact (Table.find?_declare tables.boxes name body _).trans (if_neg keyed)
  exact carryOutCommands_congr agree html

/-- A macro under the name of a setting is used by no heading of any page. -/
theorem carryOutCommands_declare_of_setting {tables : Tables} {name setting : Text}
    (sameCase : tables.macros.nameCase = tables.settings.nameCase)
    (isSetting : tables.settings.find? name = some setting) (body html : Text) :
    carryOutCommands (tables.declare .macros name body) html = carryOutCommands tables html := by
  have agree : (tables.declare .macros name body).AgreeOnHeadings tables := by
    refine ⟨fun _ => rfl, fun _ => rfl, ?_⟩
    intro word free
    have different : tables.macros.key (requote word) ≠ tables.macros.key name := by
      rw [Table.key, Table.key, sameCase]
      intro same
      have absent : tables.settings.find? name = none := (Table.find?_congr same).symm.trans free
      rw [isSetting] at absent
      exact Option.some_ne_none setting absent
    exact (Table.find?_declare tables.macros name body _).trans (if_neg different)
  exact carryOutCommands_congr agree html

/-- Of two declarations that are accepted, no heading of any page uses either: the name of the box
holds an ampersand that is not quoted, and the macro has the name of a setting. -/
theorem accepted_declarations_without_use :
    (harvest "<aside data-name=\"a&b\" class=\"box\">x</aside>".toList).declarations =
        [⟨.box, "a&b".toList, "x".toList⟩] ∧
      (∀ html, carryOutCommands (Defaults.empty.tables.declareAll
          (harvest "<aside data-name=\"a&b\" class=\"box\">x</aside>".toList).declarations) html =
        carryOutCommands Defaults.empty.tables html) ∧
      (harvest "<aside data-name=\"parent\">X</aside>".toList).declarations =
        [⟨.plain, "parent".toList, "X".toList⟩] ∧
      (∀ html, carryOutCommands (Defaults.builtin.tables.declareAll
          (harvest "<aside data-name=\"parent\">X</aside>".toList).declarations) html =
        carryOutCommands Defaults.builtin.tables html) := by
  have box : (harvest "<aside data-name=\"a&b\" class=\"box\">x</aside>".toList).declarations =
      [⟨.box, "a&b".toList, "x".toList⟩] := by decide +kernel
  have shadowed : (harvest "<aside data-name=\"parent\">X</aside>".toList).declarations =
      [⟨.plain, "parent".toList, "X".toList⟩] := by decide +kernel
  have isSetting : Defaults.builtin.tables.settings.find? "parent".toList =
      some "<!-- @CMD@ @ARGS@ -->".toList := by decide +kernel
  refine ⟨box, ?_, shadowed, ?_⟩
  · intro html
    rw [box]
    exact carryOutCommands_declare_of_requote_ne rfl (by decide) _ html
  · intro html
    rw [shadowed]
    exact carryOutCommands_declare_of_setting rfl isSetting _ html

end Folio

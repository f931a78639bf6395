import Folio.Config.Basic
import Folio.Proofs.Precedence
import Folio.Proofs.Unicode.LowerCase

/-!
# Declarations over defaults

A name is brought to its key whenever it is used: when a default is set, when a page declares it
and when it is looked up. The keys agree because a key is its own key, which for macros and settings
says that the lower case of a text is its own lower case.

The defaults are shared by all pages. Whatever a page declares, and in whatever order, its tables
answer from both layers put together, one more declaration changes the answers for the names of its
key alone, and the layer below stays as it was set up.
-/

namespace Folio

/-- A key is its own key. -/
@[simp]
theorem NameCase.key_key (nameCase : NameCase) (name : Text) :
    nameCase.key (nameCase.key name) = nameCase.key name := by
  cases nameCase with
  | exact => rfl
  | folded => exact Unicode.lowerCase_lowerCase name

/-! ## Dictionaries of keys -/

namespace Dictionary

/-- Every name of a dictionary stands once, under its key. -/
structure KeyedBy (nameCase : NameCase) (dictionary : Dictionary) : Prop where
  distinct : (dictionary.entries.map Prod.fst).Nodup
  isKey : ∀ entry ∈ dictionary.entries, nameCase.key entry.1 = entry.1

namespace KeyedBy

variable {nameCase : NameCase} {dictionary : Dictionary}

theorem empty (nameCase : NameCase) : Dictionary.empty.KeyedBy nameCase where
  distinct := List.nodup_nil
  isKey := by simp [Dictionary.empty]

theorem insert (keyed : dictionary.KeyedBy nameCase) (name text : Text) :
    (dictionary.insert (nameCase.key name) text).KeyedBy nameCase := by
  constructor
  · rw [Dictionary.insert, List.map_cons, List.nodup_cons]
    constructor
    · simp
    · exact keyed.distinct.sublist (List.filter_sublist.map Prod.fst)
  · intro entry member
    rcases List.mem_cons.1 member with rfl | earlier
    · exact nameCase.key_key name
    · exact keyed.isKey entry (List.mem_of_mem_filter earlier)

theorem insertAll (keyed : dictionary.KeyedBy nameCase) {entries : List (Text × Text)}
    (isKey : ∀ entry ∈ entries, nameCase.key entry.1 = entry.1) :
    (dictionary.insertAll entries).KeyedBy nameCase := by
  unfold Dictionary.insertAll
  induction entries generalizing dictionary with
  | nil => exact keyed
  | cons entry entries inductionHypothesis =>
    rcases List.forall_mem_cons.1 isKey with ⟨isFirstKey, isKey⟩
    have inserted := keyed.insert entry.1 entry.2
    rw [isFirstKey] at inserted
    exact inductionHypothesis inserted isKey

theorem overlay {upper : Dictionary} (lowerKeyed : dictionary.KeyedBy nameCase)
    (upperKeyed : upper.KeyedBy nameCase) : (dictionary.overlay upper).KeyedBy nameCase := by
  apply lowerKeyed.insertAll
  intro entry member
  exact upperKeyed.isKey entry (List.mem_reverse.1 member)

end KeyedBy

end Dictionary

/-! ## Defaults -/

namespace Defaults

/-- Defaults that come about by setting one body after another. -/
inductive IsBuilt : Defaults → Prop
  | empty : IsBuilt .empty
  | insert {defaults : Defaults} (built : IsBuilt defaults) (kind : TableKind) (name body : Text) :
      IsBuilt (defaults.insert kind name body)

theorem IsBuilt.insertAll {defaults : Defaults} (built : defaults.IsBuilt) (kind : TableKind)
    (entries : List (Text × Text)) : (defaults.insertAll kind entries).IsBuilt := by
  unfold Defaults.insertAll
  induction entries generalizing defaults with
  | nil => exact built
  | cons entry entries inductionHypothesis =>
    exact inductionHypothesis (built.insert kind entry.1 entry.2)

theorem isBuilt_builtin : builtin.IsBuilt :=
  ((IsBuilt.empty.insertAll .settings _).insertAll .macros _).insertAll .menus _

/-- The defaults of a configured site are built up from the built-in ones. -/
theorem isBuilt_of_bodies (bodies : Config.Bodies) : bodies.defaults.IsBuilt :=
  (((isBuilt_builtin.insertAll .boxes _).insertAll .macros _).insertAll .settings _).insertAll
    .menus _

theorem IsBuilt.keyedBy {defaults : Defaults} (built : defaults.IsBuilt) (kind : TableKind) :
    (defaults.of kind).KeyedBy kind.nameCase := by
  induction built with
  | empty => cases kind <;> exact Dictionary.KeyedBy.empty _
  | insert _ changed name body inductionHypothesis =>
    rw [of_insert]
    split
    · next same =>
      subst same
      exact inductionHypothesis.insert name body
    · exact inductionHypothesis

end Defaults

/-! ## The tables of a page -/

namespace Tables

/-- A change that a page makes in its tables. -/
inductive Change where
  /-- One body is declared. -/
  | declare (kind : TableKind) (name body : Text)
  /-- All declarations of a template are entered. -/
  | harvest (found : Harvest)
deriving DecidableEq, Repr

/-- Tables after one change. -/
def change (tables : Tables) : Change → Tables
  | .declare kind name body => tables.declare kind name body
  | .harvest found => tables.declareAll found.declarations

/-- Tables after changes, one after another. -/
def run (tables : Tables) (history : List Change) : Tables :=
  history.foldl change tables

/-- The layer that tables share with those of other pages. -/
def shared (tables : Tables) : Defaults where
  boxes := tables.boxes.defaults
  macros := tables.macros.defaults
  settings := tables.settings.defaults
  menus := tables.menus.defaults

@[simp]
theorem of_shared (tables : Tables) (kind : TableKind) :
    tables.shared.of kind = (tables.of kind).defaults := by
  cases kind <;> rfl

@[simp]
theorem shared_declare (tables : Tables) (kind : TableKind) (name body : Text) :
    (tables.declare kind name body).shared = tables.shared := by
  cases kind <;> rfl

/-- What holds of tables over some defaults, whatever has been declared in them. -/
structure IsOver (defaults : Defaults) (tables : Tables) : Prop where
  nameCase : ∀ kind, (tables.of kind).nameCase = kind.nameCase
  shared : tables.shared = defaults
  keyed : ∀ kind, (tables.of kind).declared.KeyedBy kind.nameCase

theorem isOver_tables (defaults : Defaults) : IsOver defaults defaults.tables where
  nameCase kind := by cases kind <;> rfl
  shared := rfl
  keyed kind := by cases kind <;> exact Dictionary.KeyedBy.empty _

namespace IsOver

variable {defaults : Defaults} {tables : Tables}

theorem declare (isOver : IsOver defaults tables) (kind : TableKind) (name body : Text) :
    IsOver defaults (tables.declare kind name body) := by
  constructor
  · intro other
    rw [of_declare]
    split
    · next same => rw [Table.nameCase_declare, isOver.nameCase, same]
    · exact isOver.nameCase other
  · rw [shared_declare, isOver.shared]
  · intro other
    rw [of_declare]
    split
    · next same =>
      subst same
      rw [Table.declare, Table.key, isOver.nameCase]
      exact (isOver.keyed other).insert name body
    · exact isOver.keyed other

theorem declareAll (isOver : IsOver defaults tables) (declarations : List Declaration) :
    IsOver defaults (tables.declareAll declarations) := by
  induction declarations using List.reverseRecOn with
  | nil => exact isOver
  | append_singleton declarations declaration inductionHypothesis =>
    rw [declareAll_append_singleton]
    exact inductionHypothesis.declare _ _ _

theorem change (isOver : IsOver defaults tables) (change : Change) :
    IsOver defaults (tables.change change) := by
  cases change with
  | declare kind name body => exact isOver.declare kind name body
  | harvest found => exact isOver.declareAll found.declarations

theorem run (isOver : IsOver defaults tables) (history : List Change) :
    IsOver defaults (tables.run history) := by
  unfold Tables.run
  induction history generalizing tables with
  | nil => exact isOver
  | cons change history inductionHypothesis => exact inductionHypothesis (isOver.change change)

theorem key_eq (isOver : IsOver defaults tables) (kind : TableKind) (name : Text) :
    (tables.of kind).key name = kind.nameCase.key name := by
  rw [Table.key, isOver.nameCase]

theorem find?_declare (isOver : IsOver defaults tables) (kind : TableKind)
    (name body other : Text) :
    ((tables.declare kind name body).of kind).find? other =
      if kind.nameCase.key other = kind.nameCase.key name then some body
      else (tables.of kind).find? other := by
  rw [of_declare, if_pos rfl, Table.find?_declare, isOver.key_eq, isOver.key_eq]

theorem keyedBy_toDictionary (isOver : IsOver defaults tables) (built : defaults.IsBuilt)
    (kind : TableKind) : (tables.of kind).toDictionary.KeyedBy kind.nameCase := by
  apply Dictionary.KeyedBy.overlay _ (isOver.keyed kind)
  rw [← of_shared, isOver.shared]
  exact built.keyedBy kind

end IsOver

/-- Tables stay consistent whatever is declared in them. A name is looked up under its key in both
layers put together. One more declaration gives its body to the names of its key, and leaves the
other names of its table and all other tables alone. The shared layer is what it was before, so
another page finds in it what it always found. Every name stands once in it and in both layers
together, the names of macros and settings in lower case. -/
theorem run_consistent {defaults : Defaults} (built : defaults.IsBuilt) (history : List Change) :
    let tables := defaults.tables.run history
    (∀ kind name, (tables.of kind).find? name =
      (tables.of kind).toDictionary.find? (kind.nameCase.key name)) ∧
    (∀ kind name body,
      (∀ other, ((tables.declare kind name body).of kind).find? other =
        if kind.nameCase.key other = kind.nameCase.key name then some body
        else (tables.of kind).find? other) ∧
      ∀ other, other ≠ kind → (tables.declare kind name body).of other = tables.of other) ∧
    (tables.shared = defaults ∧ ∀ kind name,
      (tables.shared.tables.of kind).find? name =
        (defaults.of kind).find? (kind.nameCase.key name)) ∧
    (∀ kind, ∀ dictionary ∈ [defaults.of kind, (tables.of kind).toDictionary],
      (dictionary.entries.map Prod.fst).Nodup ∧
        (kind = .macros ∨ kind = .settings →
          ∀ entry ∈ dictionary.entries, Unicode.lowerCase entry.1 = entry.1)) := by
  intro tables
  have isOver : IsOver defaults tables := (isOver_tables defaults).run history
  refine ⟨?_, ?_, ?_, ?_⟩
  · intro kind name
    rw [Table.find?_eq_find?_toDictionary, isOver.key_eq]
  · intro kind name body
    constructor
    · exact isOver.find?_declare kind name body
    · intro other different
      rw [of_declare, if_neg different]
  · constructor
    · exact isOver.shared
    · intro kind name
      rw [isOver.shared, Defaults.find?_of_tables]
  · intro kind dictionary isLayer
    have keyed : dictionary.KeyedBy kind.nameCase := by
      rcases List.mem_pair.1 isLayer with rfl | rfl
      · exact built.keyedBy kind
      · exact isOver.keyedBy_toDictionary built kind
    refine ⟨keyed.distinct, ?_⟩
    rintro (rfl | rfl)
    · exact keyed.isKey
    · exact keyed.isKey

/-- A capital sigma is small in one of two ways, so a default under a name that ends in one is
hidden by a declaration under the name with a final sigma, on this page alone. -/
theorem run_consistent_of_final_sigma :
    let defaults := Defaults.builtin.insert .macros "ΟΔΟΣ".toList "street".toList
    let tables := defaults.tables.run
      [.harvest (harvest "<aside id=\"οδος\">way</aside>".toList),
        .declare .boxes "ΟΔΟΣ".toList [], .declare .settings "ΟΔΟΣ".toList "road".toList]
    defaults.IsBuilt ∧
      (tables.of .macros).find? "ΟΔΟΣ".toList = some "way".toList ∧
      (tables.of .boxes).find? "οδος".toList = none ∧
      (tables.of .settings).find? "Οδος".toList = some "road".toList ∧
      (tables.shared.tables.of .macros).find? "ΟΔΟΣ".toList = some "street".toList ∧
      ∀ entry ∈ (tables.of .macros).toDictionary.entries,
        Unicode.lowerCase entry.1 = entry.1 := by
  intro defaults tables
  have built : defaults.IsBuilt :=
    Defaults.isBuilt_builtin.insert .macros "ΟΔΟΣ".toList "street".toList
  rcases run_consistent built
      [.harvest (harvest "<aside id=\"οδος\">way</aside>".toList),
        .declare .boxes "ΟΔΟΣ".toList [], .declare .settings "ΟΔΟΣ".toList "road".toList]
    with ⟨answers, -, ⟨-, fresh⟩, keyed⟩
  refine ⟨built, ?_, ?_, ?_, ?_, ?_⟩
  · rw [answers]
    decide +kernel
  · rw [answers]
    decide +kernel
  · rw [answers]
    decide +kernel
  · rw [fresh]
    decide +kernel
  · exact (keyed .macros _ (List.mem_pair.2 (.inr rfl))).2 (.inl rfl)

end Tables

end Folio

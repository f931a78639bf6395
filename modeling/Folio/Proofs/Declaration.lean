import Folio.Declaration
import Mathlib.Data.List.Induction

/-!
# What declarations leave in the tables

The declarations of a template are entered into the tables of a page one after another, so of
several declarations of one name the last counts, and it counts before the default. A template
block becomes a declaration only under a name that is fit to be used in a heading and as the name
of a region.
-/

namespace Folio

namespace Table

/-- A name that was declared has its body; all names that the table tells apart from it keep
theirs. -/
theorem find?_declare (table : Table) (name body other : Text) :
    (table.declare name body).find? other =
      if table.key other = table.key name then some body else table.find? other := by
  rw [find?, declare, key, Dictionary.find?_insert]
  by_cases same : table.nameCase.key other = table.nameCase.key name
  · simp [key, same]
  · simp [key, same, find?]

/-- A table has one body for all names that it does not tell apart. -/
theorem find?_congr {table : Table} {name other : Text} (same : table.key name = table.key other) :
    table.find? name = table.find? other := by
  rw [find?, same, find?]

/-- A name is looked up under its key in both layers of a table put together. -/
theorem find?_eq_find?_toDictionary (table : Table) (name : Text) :
    table.find? name = table.toDictionary.find? (table.key name) := by
  rw [find?, toDictionary, Dictionary.overlay, Dictionary.find?_insertAll, List.reverse_reverse,
    Option.orElse_eq_or]
  rfl

@[simp]
theorem nameCase_declare (table : Table) (name body : Text) :
    (table.declare name body).nameCase = table.nameCase :=
  rfl

end Table

namespace Tables

/-- A declaration changes the table of its kind alone. -/
theorem of_declare (tables : Tables) (kind other : TableKind) (name body : Text) :
    (tables.declare kind name body).of other =
      if other = kind then (tables.of kind).declare name body else tables.of other := by
  cases kind <;> cases other <;> rfl

theorem declareAll_append_singleton (tables : Tables) (declarations : List Declaration)
    (declaration : Declaration) :
    tables.declareAll (declarations ++ [declaration]) =
      (tables.declareAll declarations).declare declaration.kind.table declaration.name
        declaration.body := by
  rw [declareAll, List.foldl_append, List.foldl_cons, List.foldl_nil, declareAll]

end Tables

namespace Declaration

/-- The last declaration for a table under a name, as the table compares names. -/
def last? (kind : TableKind) (name : Text) (declarations : List Declaration) :
    Option Declaration :=
  declarations.reverse.find? fun declaration =>
    declaration.kind.table = kind ∧
      kind.nameCase.key declaration.name = kind.nameCase.key name

theorem last?_append_singleton (kind : TableKind) (name : Text)
    (declarations : List Declaration) (declaration : Declaration) :
    last? kind name (declarations ++ [declaration]) =
      if declaration.kind.table = kind ∧
          kind.nameCase.key declaration.name = kind.nameCase.key name then some declaration
      else last? kind name declarations := by
  simp only [last?, List.reverse_append, List.reverse_singleton, List.singleton_append,
    List.find?_cons]
  split <;> split <;> simp_all

/-- A declaration is the last one for its table under its name, or another one is. -/
theorem exists_last? {declarations : List Declaration} {declaration : Declaration}
    (member : declaration ∈ declarations) :
    ∃ last, last? declaration.kind.table declaration.name declarations = some last := by
  rw [← Option.isSome_iff_exists, last?, List.find?_isSome]
  exact ⟨declaration, List.mem_reverse.2 member, by simp⟩

theorem mem_of_last? {kind : TableKind} {name : Text} {declarations : List Declaration}
    {declaration : Declaration} (found : last? kind name declarations = some declaration) :
    declaration ∈ declarations := by
  simpa using List.mem_of_find?_eq_some found

end Declaration

/-- The tables of a page compare names in the way of their kinds. -/
theorem nameCase_declareAll (defaults : Defaults) (declarations : List Declaration)
    (kind : TableKind) :
    ((defaults.tables.declareAll declarations).of kind).nameCase = kind.nameCase := by
  induction declarations using List.reverseRecOn with
  | nil => cases kind <;> rfl
  | append_singleton declarations declaration inductionHypothesis =>
    rw [Tables.declareAll_append_singleton, Tables.of_declare]
    split
    · next same => rw [Table.nameCase_declare, ← same, inductionHypothesis]
    · exact inductionHypothesis

/-- A table of a page gives the body of the last declaration of a name, and without one the
default. -/
theorem find?_declareAll (defaults : Defaults) (declarations : List Declaration)
    (kind : TableKind) (name : Text) :
    ((defaults.tables.declareAll declarations).of kind).find? name =
      ((Declaration.last? kind name declarations).map Declaration.body).or
        ((defaults.tables.of kind).find? name) := by
  induction declarations using List.reverseRecOn with
  | nil => rfl
  | append_singleton declarations declaration inductionHypothesis =>
    have step : (defaults.tables.declareAll (declarations ++ [declaration])).of kind =
        if kind = declaration.kind.table then
          ((defaults.tables.declareAll declarations).of declaration.kind.table).declare
            declaration.name declaration.body
        else (defaults.tables.declareAll declarations).of kind := by
      rw [Tables.declareAll_append_singleton, Tables.of_declare]
    rw [step, Declaration.last?_append_singleton]
    by_cases same : kind = declaration.kind.table
    · rw [if_pos same, Table.find?_declare, Table.key, Table.key, nameCase_declareAll, ← same]
      by_cases named : kind.nameCase.key name = kind.nameCase.key declaration.name
      · simp [named]
      · have other : ¬ kind.nameCase.key declaration.name = kind.nameCase.key name :=
          fun equal => named equal.symm
        simp [named, other, inductionHypothesis]
    · simp [same, Ne.symm same, inductionHypothesis]

/-! ## Accepted blocks -/

/-- A block is accepted only under a name that is not empty and holds no whitespace, and an aside
never under the name of the main region. -/
theorem DeclarationBlock.eq_ofBody_of_declaration {block : DeclarationBlock}
    {declaration : Declaration} (accepted : block.declaration = .ok declaration) :
    declaration = .ofBody declaration.kind declaration.name block.content ∧
      declaration.name ≠ [] ∧ (∀ c ∈ declaration.name, Unicode.isBlank c = false) ∧
      ¬ (declaration.kind = .aside ∧ declaration.name = mainRegion) := by
  unfold DeclarationBlock.declaration at accepted
  dsimp only at accepted
  split at accepted
  · simp at accepted
  · next name named =>
    have nonempty : name ≠ [] := by
      have filtered := (Option.filter_eq_some_iff.1 named).2
      simpa using filtered
    split at accepted
    · simp at accepted
    · next noBlank =>
      split at accepted
      · simp at accepted
      · next notMain =>
        have plain : ∀ c ∈ name, Unicode.isBlank c = false := by simpa using noBlank
        obtain rfl := Except.ok.inj accepted
        exact ⟨rfl, nonempty, plain, notMain⟩

/-- The declarations of a template come from its accepted blocks. -/
theorem exists_block_of_mem_harvest {template : Text} {declaration : Declaration}
    (member : declaration ∈ (harvest template).declarations) :
    ∃ block ∈ Text.items DeclarationBlock.block? template,
      block.declaration = .ok declaration := by
  simp only [harvest, blockOutcomes, List.mem_filterMap, List.mem_map] at member
  obtain ⟨outcome, ⟨block, isBlock, rfl⟩, accepted⟩ := member
  refine ⟨block, isBlock, ?_⟩
  split at accepted
  · next same => rw [same, Option.some.inj accepted]
  · simp at accepted

/-- A template declares bodies only under names that are not empty and hold no whitespace. -/
theorem name_of_mem_harvest {template : Text} {declaration : Declaration}
    (member : declaration ∈ (harvest template).declarations) :
    declaration.name ≠ [] ∧ ∀ c ∈ declaration.name, Unicode.isBlank c = false := by
  obtain ⟨block, -, accepted⟩ := exists_block_of_mem_harvest member
  obtain ⟨-, nonempty, noBlank, -⟩ := DeclarationBlock.eq_ofBody_of_declaration accepted
  exact ⟨nonempty, noBlank⟩

end Folio

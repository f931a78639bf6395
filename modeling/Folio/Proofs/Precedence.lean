import Folio.Config.Basic
import Folio.Proofs.Declaration
import Folio.Proofs.Text.Utf8
import Mathlib.Data.List.Sort

/-!
# Which body a name stands for

Three layers give bodies to names: the declarations of a page, the configuration of a site and the
built-in bodies. The first of them that has the name decides, with whatever body it gives, an
empty one included.

Within a layer several entries may have names that a table takes for the same. Of declarations the
last one in the template counts. The entries of a configuration are in no order of their own, so
there the spelling counts whose octets come last.
-/

namespace Folio

namespace TableKind

/-- Whether a table takes two names for the same. The names of macros and settings are compared in
lower case; box and menu names are compared as they are written. -/
def SameName : TableKind → Text → Text → Prop
  | .boxes, name, other => name = other
  | .macros, name, other => Unicode.lowerCase name = Unicode.lowerCase other
  | .settings, name, other => Unicode.lowerCase name = Unicode.lowerCase other
  | .menus, name, other => name = other

theorem sameName_iff {kind : TableKind} {name other : Text} :
    kind.SameName name other ↔ kind.nameCase.key name = kind.nameCase.key other := by
  cases kind <;> rfl

instance decidableSameName (kind : TableKind) (name other : Text) :
    Decidable (kind.SameName name other) :=
  decidable_of_iff' _ sameName_iff

theorem SameName.trans_symm {kind : TableKind} {first second name : Text}
    (isFirst : kind.SameName first name) (isSecond : kind.SameName second name) :
    kind.SameName first second := by
  rw [sameName_iff] at isFirst isSecond ⊢
  exact isFirst.trans isSecond.symm

end TableKind

/-! ## Entries in a row -/

/-- In a row the last item of a kind is the one after which there is no other. -/
theorem find?_reverse_eq_some_iff {α : Type} {test : α → Bool} {row : List α} {item : α} :
    row.reverse.find? test = some item ↔
      test item = true ∧ ∃ before after, row = before ++ item :: after ∧
        ∀ later ∈ after, test later = false := by
  rw [List.find?_eq_some_iff_append]
  apply and_congr_right'
  constructor
  · rintro ⟨after, before, split, noLater⟩
    refine ⟨before.reverse, after.reverse, ?_, by simpa using noLater⟩
    rw [← List.reverse_inj, split]
    simp
  · rintro ⟨before, after, rfl, noLater⟩
    exact ⟨after.reverse, before.reverse, by simp, by simpa using noLater⟩

/-- The last entry of a name in a row of entries. -/
def lastNamed? (kind : TableKind) (name : Text) (entries : List (Text × Text)) :
    Option (Text × Text) :=
  entries.reverse.find? fun entry => kind.SameName entry.1 name

theorem lastNamed?_append_singleton (kind : TableKind) (name : Text)
    (entries : List (Text × Text)) (entry : Text × Text) :
    lastNamed? kind name (entries ++ [entry]) =
      if kind.SameName entry.1 name then some entry else lastNamed? kind name entries := by
  rw [lastNamed?, List.reverse_append, List.reverse_singleton, List.singleton_append,
    List.find?_cons, lastNamed?]
  split <;> simp_all

theorem lastNamed?_cons (kind : TableKind) (name : Text) (entry : Text × Text)
    (entries : List (Text × Text)) :
    lastNamed? kind name (entry :: entries) =
      (lastNamed? kind name entries).or
        (if kind.SameName entry.1 name then some entry else none) := by
  rw [lastNamed?, List.reverse_cons, List.find?_append, lastNamed?]
  by_cases named : kind.SameName entry.1 name <;> simp [named]

theorem lastNamed?_eq_none_iff {kind : TableKind} {name : Text} {entries : List (Text × Text)} :
    lastNamed? kind name entries = none ↔ ∀ entry ∈ entries, ¬ kind.SameName entry.1 name := by
  simp [lastNamed?, List.find?_eq_none]

namespace Defaults

theorem of_insert (defaults : Defaults) (kind other : TableKind) (name body : Text) :
    (defaults.insert kind name body).of other =
      if other = kind then (defaults.of kind).insert (kind.nameCase.key name) body
      else defaults.of other := by
  cases kind <;> cases other <;> rfl

theorem insertAll_append_singleton (defaults : Defaults) (kind : TableKind)
    (entries : List (Text × Text)) (entry : Text × Text) :
    defaults.insertAll kind (entries ++ [entry]) =
      (defaults.insertAll kind entries).insert kind entry.1 entry.2 := by
  rw [insertAll, List.foldl_append, List.foldl_cons, List.foldl_nil, insertAll]

/-- After entries have been made for a table, a name has the body of its last entry there, and
without one the body that it had before. The other tables are as they were. -/
theorem find?_of_insertAll (defaults : Defaults) (kind other : TableKind)
    (entries : List (Text × Text)) (name : Text) :
    ((defaults.insertAll kind entries).of other).find? (other.nameCase.key name) =
      (if other = kind then (lastNamed? kind name entries).map Prod.snd else none).or
        ((defaults.of other).find? (other.nameCase.key name)) := by
  -- The last entry is made last, so the row is taken apart from its end.
  induction entries using List.reverseRecOn with
  | nil => split <;> rfl
  | append_singleton entries entry inductionHypothesis =>
    rw [insertAll_append_singleton, of_insert, lastNamed?_append_singleton]
    by_cases same : other = kind
    · subst same
      rw [if_pos rfl, if_pos rfl, Dictionary.find?_insert]
      by_cases named : other.SameName entry.1 name
      · rw [if_pos named, if_pos (TableKind.sameName_iff.1 named).symm]
        rfl
      · have unequal : other.nameCase.key name ≠ other.nameCase.key entry.1 :=
          fun equal => named (TableKind.sameName_iff.2 equal.symm)
        rw [if_neg named, if_neg unequal, inductionHypothesis, if_pos rfl]
    · simp only [if_neg same] at inductionHypothesis ⊢
      exact inductionHypothesis

@[simp]
theorem find?_of_empty (kind : TableKind) (key : Text) : (empty.of kind).find? key = none := by
  cases kind <;> rfl

/-- A page that declares nothing finds the defaults. -/
theorem find?_of_tables (defaults : Defaults) (kind : TableKind) (name : Text) :
    (defaults.tables.of kind).find? name = (defaults.of kind).find? (kind.nameCase.key name) := by
  cases kind <;> rfl

/-! ## The built-in layer -/

/-- The built-in entries of a table. There are no built-in boxes. -/
def builtinEntries : TableKind → List (Text × Text)
  | .boxes => []
  | .macros => builtinMacros
  | .settings => builtinSettings
  | .menus => builtinMenus

theorem find?_of_builtin (kind : TableKind) (name : Text) :
    (builtin.of kind).find? (kind.nameCase.key name) =
      (lastNamed? kind name (builtinEntries kind)).map Prod.snd := by
  unfold builtin
  cases kind with
  | boxes => simp [find?_of_insertAll, builtinEntries, lastNamed?]
  | macros => simp [find?_of_insertAll, builtinEntries]
  | settings => simp [find?_of_insertAll, builtinEntries]
  | menus => simp [find?_of_insertAll, builtinEntries]

/-- No two built-in entries of a table have the same name. -/
theorem pairwise_builtinEntries (kind : TableKind) :
    (builtinEntries kind).Pairwise fun first second => ¬ kind.SameName first.1 second.1 := by
  cases kind <;> decide +kernel

theorem lastNamed?_builtinEntries_eq_some_iff {kind : TableKind} {name : Text}
    {entry : Text × Text} :
    lastNamed? kind name (builtinEntries kind) = some entry ↔
      entry ∈ builtinEntries kind ∧ kind.SameName entry.1 name := by
  rw [lastNamed?, find?_reverse_eq_some_iff]
  simp only [decide_eq_true_eq, decide_eq_false_iff_not]
  constructor
  · rintro ⟨named, before, after, split, -⟩
    rw [split]
    exact ⟨List.mem_append_right before List.mem_cons_self, named⟩
  · rintro ⟨member, named⟩
    obtain ⟨before, after, split⟩ := List.append_of_mem member
    refine ⟨named, before, after, split, ?_⟩
    have different := pairwise_builtinEntries kind
    rw [split, List.pairwise_append, List.pairwise_cons] at different
    intro later isLater laterNamed
    exact different.2.1.1 later isLater (named.trans_symm laterNamed)

end Defaults

/-! ## The configured layer -/

namespace Config

/-- The entries of a configuration for a table. -/
def Bodies.of (bodies : Bodies) : TableKind → List (Text × Text)
  | .boxes => bodies.boxes
  | .macros => bodies.macros
  | .settings => bodies.settings
  | .menus => bodies.menus

/-- Of all entries for a name, `entry` is the one whose spelling comes last in the order of octets.
A spelling that is given twice counts the second time. -/
def IsLastSpelling (kind : TableKind) (name : Text) (entries : List (Text × Text))
    (entry : Text × Text) : Prop :=
  kind.SameName entry.1 name ∧
    ∃ before after, entries = before ++ entry :: after ∧
      (∀ other ∈ before, kind.SameName other.1 name →
        Text.toUtf8 other.1 ≤ Text.toUtf8 entry.1) ∧
      (∀ other ∈ after, kind.SameName other.1 name →
        Text.toUtf8 other.1 < Text.toUtf8 entry.1)

variable {kind : TableKind} {name : Text}

/-- The first of a row of entries has the last spelling if all later ones are smaller; otherwise
the entry of the last spelling is among the later ones. -/
theorem isLastSpelling_cons_iff {first entry : Text × Text} {entries : List (Text × Text)} :
    IsLastSpelling kind name (first :: entries) entry ↔
      (kind.SameName first.1 name ∧ entry = first ∧
        ∀ other ∈ entries, kind.SameName other.1 name → other.1 < first.1) ∨
      (IsLastSpelling kind name entries entry ∧
        (kind.SameName first.1 name → first.1 ≤ entry.1)) := by
  simp only [IsLastSpelling, Text.toUtf8_lt_iff, Text.toUtf8_le_iff]
  constructor
  · rintro ⟨named, before, after, split, noGreater, allSmaller⟩
    cases before with
    | nil =>
      obtain ⟨rfl, rfl⟩ := List.cons.inj split
      exact .inl ⟨named, rfl, allSmaller⟩
    | cons other before =>
      obtain ⟨rfl, rfl⟩ := List.cons.inj split
      obtain ⟨firstNoGreater, noGreater⟩ := List.forall_mem_cons.1 noGreater
      exact .inr ⟨⟨named, before, after, rfl, noGreater, allSmaller⟩, firstNoGreater⟩
  · rintro (⟨named, rfl, allSmaller⟩ | ⟨⟨named, before, after, rfl, noGreater, allSmaller⟩, least⟩)
    · exact ⟨named, [], entries, rfl, by simp, allSmaller⟩
    · exact ⟨named, first :: before, after, rfl, List.forall_mem_cons.2 ⟨least, noGreater⟩,
        allSmaller⟩

theorem IsLastSpelling.le {entry other : Text × Text} {entries : List (Text × Text)}
    (isLast : IsLastSpelling kind name entries entry) (member : other ∈ entries)
    (named : kind.SameName other.1 name) : other.1 ≤ entry.1 := by
  obtain ⟨-, before, after, rfl, noGreater, allSmaller⟩ := isLast
  rcases List.mem_append.1 member with early | late
  · exact Text.toUtf8_le_iff.1 (noGreater other early named)
  · rcases List.mem_cons.1 late with rfl | late
    · exact le_rfl
    · exact le_of_lt (Text.toUtf8_lt_iff.1 (allSmaller other late named))

theorem IsLastSpelling.mem {entry : Text × Text} {entries : List (Text × Text)}
    (isLast : IsLastSpelling kind name entries entry) : entry ∈ entries := by
  obtain ⟨-, before, after, rfl, -, -⟩ := isLast
  exact List.mem_append_right before List.mem_cons_self

theorem insertByName_eq_orderedInsert (entry : Text × Text) (entries : List (Text × Text)) :
    insertByName entry entries = entries.orderedInsert (fun first second => first.1 ≤ second.1)
      entry := by
  induction entries with
  | nil => rfl
  | cons other entries inductionHypothesis =>
    rw [insertByName, List.orderedInsert, inductionHypothesis]
    by_cases less : other.1 < entry.1
    · rw [if_pos less, if_neg (not_le_of_gt less)]
    · rw [if_neg less, if_pos (not_lt.1 less)]

theorem sortByName_eq_insertionSort (entries : List (Text × Text)) :
    sortByName entries =
      entries.insertionSort (fun first second => first.1 ≤ second.1) := by
  induction entries with
  | nil => rfl
  | cons entry entries inductionHypothesis =>
    rw [sortByName, List.foldr_cons, ← sortByName, insertByName_eq_orderedInsert,
      inductionHypothesis, List.insertionSort_cons]

theorem pairwise_sortByName (entries : List (Text × Text)) :
    (sortByName entries).Pairwise fun first second => first.1 ≤ second.1 := by
  have : Std.Total fun first second : Text × Text => first.1 ≤ second.1 :=
    ⟨fun first second => le_total first.1 second.1⟩
  have : IsTrans (Text × Text) fun first second => first.1 ≤ second.1 :=
    ⟨fun _ _ _ => le_trans⟩
  rw [sortByName_eq_insertionSort]
  exact List.pairwise_insertionSort _ entries

/-- An entry that is put into its place counts for its names unless an entry with the same or a
later spelling does. -/
theorem lastNamed?_insertByName {entries : List (Text × Text)}
    (sorted : entries.Pairwise fun first second => first.1 ≤ second.1) (entry : Text × Text) :
    lastNamed? kind name (insertByName entry entries) =
      match lastNamed? kind name entries with
      | some last =>
        if kind.SameName entry.1 name ∧ last.1 < entry.1 then some entry else some last
      | none => if kind.SameName entry.1 name then some entry else none := by
  induction entries with
  | nil => rw [insertByName, lastNamed?_cons]; rfl
  | cons other entries inductionHypothesis =>
    obtain ⟨least, sorted⟩ := List.pairwise_cons.1 sorted
    rw [insertByName]
    by_cases less : other.1 < entry.1
    · rw [if_pos less, lastNamed?_cons, inductionHypothesis sorted, lastNamed?_cons]
      cases lastNamed? kind name entries with
      | some last =>
        simp only [Option.some_or]
        split <;> rfl
      | none =>
        by_cases named : kind.SameName entry.1 name <;>
          by_cases otherNamed : kind.SameName other.1 name <;> simp [named, otherNamed, less]
    · rw [if_neg less, lastNamed?_cons kind name entry]
      cases found : lastNamed? kind name (other :: entries) with
      | some last =>
        have member := List.mem_reverse.1 (List.mem_of_find?_eq_some found)
        have otherLeast : other.1 ≤ last.1 := by
          rcases List.mem_cons.1 member with rfl | later
          · exact le_rfl
          · exact least last later
        have noLess : ¬ last.1 < entry.1 := fun smaller => less (lt_of_le_of_lt otherLeast smaller)
        simp [noLess]
      | none => rfl

theorem mem_sortByName {entry : Text × Text} {entries : List (Text × Text)} :
    entry ∈ sortByName entries ↔ entry ∈ entries := by
  rw [sortByName_eq_insertionSort, List.mem_insertionSort]

theorem lastNamed?_sortByName_eq_none_iff {entries : List (Text × Text)} :
    lastNamed? kind name (sortByName entries) = none ↔
      ∀ entry ∈ entries, ¬ kind.SameName entry.1 name := by
  simp only [lastNamed?_eq_none_iff, mem_sortByName]

/-- The entries of a configuration count in the order of their spellings. -/
theorem lastNamed?_sortByName_eq_some_iff {entries : List (Text × Text)} {entry : Text × Text} :
    lastNamed? kind name (sortByName entries) = some entry ↔
      IsLastSpelling kind name entries entry := by
  induction entries generalizing entry with
  | nil => simp [sortByName, lastNamed?, IsLastSpelling]
  | cons first entries inductionHypothesis =>
    rw [isLastSpelling_cons_iff, sortByName, List.foldr_cons, ← sortByName,
      lastNamed?_insertByName (pairwise_sortByName entries), ← inductionHypothesis]
    cases found : lastNamed? kind name (sortByName entries) with
    | none =>
      have unnamed := lastNamed?_sortByName_eq_none_iff.1 found
      constructor
      · intro same
        by_cases named : kind.SameName first.1 name
        · obtain rfl : first = entry := by simpa [named] using same
          exact .inl ⟨named, rfl, fun other member isNamed => absurd isNamed (unnamed other member)⟩
        · simp [named] at same
      · rintro (⟨named, rfl, -⟩ | ⟨same, -⟩)
        · exact if_pos named
        · simp at same
    | some last =>
      have isLast := inductionHypothesis.1 found
      by_cases later : kind.SameName first.1 name ∧ last.1 < first.1
      · simp only [if_pos later]
        constructor
        · intro same
          refine .inl ⟨later.1, (Option.some.inj same).symm, ?_⟩
          intro other member named
          exact lt_of_le_of_lt (isLast.le member named) later.2
        · rintro (⟨-, rfl, -⟩ | ⟨same, least⟩)
          · rfl
          · obtain rfl := Option.some.inj same
            exact absurd later.2 (not_lt.2 (least later.1))
      · simp only [if_neg later]
        constructor
        · intro same
          obtain rfl := Option.some.inj same
          exact .inr ⟨rfl, fun named => not_lt.1 fun less => later ⟨named, less⟩⟩
        · rintro (⟨named, rfl, allSmaller⟩ | ⟨same, -⟩)
          · exact absurd ⟨named, allSmaller last isLast.mem isLast.1⟩ later
          · exact same

/-- What a configuration gives to a name comes before what is built in. -/
theorem find?_of_defaults (bodies : Bodies) (kind : TableKind) (name : Text) :
    (bodies.defaults.of kind).find? (kind.nameCase.key name) =
      ((lastNamed? kind name (sortByName (bodies.of kind))).map Prod.snd).or
        ((lastNamed? kind name (Defaults.builtinEntries kind)).map Prod.snd) := by
  rw [← Defaults.find?_of_builtin]
  unfold Bodies.defaults
  cases kind <;> simp [Defaults.find?_of_insertAll, Bodies.of]

theorem bind_eq_ok_iff {ε α β : Type} {first : Except ε α} {next : α → Except ε β} {result : β} :
    first >>= next = .ok result ↔ ∃ value, first = .ok value ∧ next value = .ok result := by
  cases first <;> simp [bind, Except.bind]

/-- The configuration of a file has the built-in bodies with those of the file over them. -/
theorem defaults_of_ofStored {source : Path} {valueOf : Text → Option Text} {stored : Stored}
    {config : Config} (made : ofStored source valueOf stored = .ok config) :
    config.defaults = stored.bodies.defaults := by
  simp only [ofStored, bind_eq_ok_iff] at made
  obtain ⟨theme, -, -, -, -, -, made⟩ := made
  rw [← Except.ok.inj made]

/-- Without a file a configuration gives no bodies of its own. -/
theorem defaults_usual (base : Path) : (usual base).defaults = Bodies.defaults ⟨[], [], [], []⟩ :=
  rfl

end Config

/-! ## All layers -/

/-- A declaration gives a body to a name in the table of a kind. -/
def Declaration.Names (kind : TableKind) (name : Text) (declaration : Declaration) : Prop :=
  declaration.kind.table = kind ∧ kind.SameName declaration.name name

theorem Declaration.last?_eq_some_iff {kind : TableKind} {name : Text}
    {declarations : List Declaration} {declaration : Declaration} :
    last? kind name declarations = some declaration ↔
      declaration.Names kind name ∧ ∃ before after,
        declarations = before ++ declaration :: after ∧
          ∀ later ∈ after, ¬ later.Names kind name := by
  rw [last?, find?_reverse_eq_some_iff]
  simp only [Names, TableKind.sameName_iff, decide_eq_true_eq, decide_eq_false_iff_not]

theorem Declaration.last?_eq_none_iff {kind : TableKind} {name : Text}
    {declarations : List Declaration} :
    last? kind name declarations = none ↔
      ∀ declaration ∈ declarations, ¬ declaration.Names kind name := by
  simp [last?, List.find?_eq_none, Names, TableKind.sameName_iff]

/-- What a name stands for in the table of a kind on a page. The first layer that has the name
decides: the declarations of the page, the configured bodies, the built-in ones. -/
inductive StandsFor (bodies : Config.Bodies) (declarations : List Declaration) (kind : TableKind)
    (name : Text) : Option Text → Prop
  | declared {before after : List Declaration} {declaration : Declaration}
      (split : declarations = before ++ declaration :: after)
      (names : declaration.Names kind name)
      (last : ∀ later ∈ after, ¬ later.Names kind name) :
      StandsFor bodies declarations kind name (some declaration.body)
  | configured {entry : Text × Text}
      (undeclared : ∀ declaration ∈ declarations, ¬ declaration.Names kind name)
      (last : Config.IsLastSpelling kind name (bodies.of kind) entry) :
      StandsFor bodies declarations kind name (some entry.2)
  | builtin {entry : Text × Text}
      (undeclared : ∀ declaration ∈ declarations, ¬ declaration.Names kind name)
      (unconfigured : ∀ other ∈ bodies.of kind, ¬ kind.SameName other.1 name)
      (member : entry ∈ Defaults.builtinEntries kind) (named : kind.SameName entry.1 name) :
      StandsFor bodies declarations kind name (some entry.2)
  | unknown
      (undeclared : ∀ declaration ∈ declarations, ¬ declaration.Names kind name)
      (unconfigured : ∀ other ∈ bodies.of kind, ¬ kind.SameName other.1 name)
      (notBuiltin : ∀ other ∈ Defaults.builtinEntries kind, ¬ kind.SameName other.1 name) :
      StandsFor bodies declarations kind name none

/-- A table of a page looks a name up in its three layers, one after the other. -/
theorem find?_page_table (bodies : Config.Bodies) (declarations : List Declaration)
    (kind : TableKind) (name : Text) :
    ((bodies.defaults.tables.declareAll declarations).of kind).find? name =
      ((Declaration.last? kind name declarations).map Declaration.body).or
        (((lastNamed? kind name (Config.sortByName (bodies.of kind))).map Prod.snd).or
          ((lastNamed? kind name (Defaults.builtinEntries kind)).map Prod.snd)) := by
  rw [find?_declareAll, Defaults.find?_of_tables, Config.find?_of_defaults]

/-- No page is without a body for a built-in name. -/
theorem exists_find?_of_mem_builtinEntries (bodies : Config.Bodies)
    (declarations : List Declaration) (kind : TableKind) {entry : Text × Text}
    (member : entry ∈ Defaults.builtinEntries kind) :
    ∃ body, ((bodies.defaults.tables.declareAll declarations).of kind).find? entry.1 =
      some body := by
  have isLast := Defaults.lastNamed?_builtinEntries_eq_some_iff.2
    ⟨member, TableKind.sameName_iff.2 rfl⟩
  rw [find?_page_table, isLast, ← Option.isSome_iff_exists, Option.map_some, Option.isSome_or,
    Option.isSome_or, Option.isSome_some, Bool.or_true, Bool.or_true]

/-- On every page of every site a table gives to a name exactly the body that the name stands
for. -/
theorem find?_eq_iff_standsFor (bodies : Config.Bodies) (template name : Text) (kind : TableKind)
    (answer : Option Text) :
    ((bodies.defaults.tables.declareAll (harvest template).declarations).of kind).find? name =
        answer ↔
      StandsFor bodies (harvest template).declarations kind name answer := by
  rw [find?_page_table]
  generalize (harvest template).declarations = declarations
  constructor
  · rintro rfl
    cases declared : Declaration.last? kind name declarations with
    | some declaration =>
      obtain ⟨names, before, after, split, last⟩ := Declaration.last?_eq_some_iff.1 declared
      exact .declared split names last
    | none =>
      have undeclared := Declaration.last?_eq_none_iff.1 declared
      cases configured : lastNamed? kind name (Config.sortByName (bodies.of kind)) with
      | some entry =>
        exact .configured undeclared (Config.lastNamed?_sortByName_eq_some_iff.1 configured)
      | none =>
        have unconfigured := Config.lastNamed?_sortByName_eq_none_iff.1 configured
        cases isBuiltin : lastNamed? kind name (Defaults.builtinEntries kind) with
        | some entry =>
          obtain ⟨member, named⟩ := Defaults.lastNamed?_builtinEntries_eq_some_iff.1 isBuiltin
          exact .builtin undeclared unconfigured member named
        | none => exact .unknown undeclared unconfigured (lastNamed?_eq_none_iff.1 isBuiltin)
  · intro standsFor
    cases standsFor with
    | declared split names last =>
      rw [Declaration.last?_eq_some_iff.2 ⟨names, _, _, split, last⟩]
      rfl
    | configured undeclared last =>
      rw [Declaration.last?_eq_none_iff.2 undeclared,
        Config.lastNamed?_sortByName_eq_some_iff.2 last]
      rfl
    | builtin undeclared unconfigured member named =>
      rw [Declaration.last?_eq_none_iff.2 undeclared,
        Config.lastNamed?_sortByName_eq_none_iff.2 unconfigured,
        Defaults.lastNamed?_builtinEntries_eq_some_iff.2 ⟨member, named⟩]
      rfl
    | unknown undeclared unconfigured notBuiltin =>
      rw [Declaration.last?_eq_none_iff.2 undeclared,
        Config.lastNamed?_sortByName_eq_none_iff.2 unconfigured,
        lastNamed?_eq_none_iff.2 notBuiltin]
      rfl

/-- The spelling that comes last counts, although its body is empty. -/
example :
    let bodies : Config.Bodies :=
      ⟨[], [("note".toList, []), ("NOTE".toList, "<b>@ARGS@</b>".toList)], [], []⟩
    bodies.defaults.tables.macros.find? "Note".toList = some [] := by
  decide +kernel

end Folio

import Folio.Dictionary
import Folio.Theme

/-!
# Themes that are stored and read

A theme that is stored is read as the same theme. Not every value that is read as a theme was
stored: fields may be absent or null, the menu has two names, unknown fields are passed over, and a
record may be a list. The rules say which values are read, and as what; absence, null and an empty
list of children are told apart at every depth. Storing what was read and reading it again changes
nothing.
-/

namespace Folio

/-! ## What is read -/

/-- A text that may be absent, as it is stored. -/
inductive StoresText : Option Value → Option Text → Prop
  | absent : StoresText none none
  | null : StoresText (some .null) none
  | text (content : Text) : StoresText (some (.text content)) (some content)

theorem optionalText?_eq_some_iff {stored : Option Value} {content : Option Text} :
    Value.optionalText? stored = some content ↔ StoresText stored content := by
  constructor
  · intro found
    unfold Value.optionalText? at found
    split at found
    · cases found
      exact .absent
    · cases found
      exact .null
    · cases found
      exact .text _
    · cases found
  · rintro (_ | _ | content) <;> rfl

theorem storesText_none_iff {content : Option Text} : StoresText none content ↔ content = none := by
  rw [← optionalText?_eq_some_iff]
  exact Option.some_inj.trans eq_comm

theorem storesText_ofOptionalText (content : Option Text) :
    StoresText (some (Value.ofOptionalText content)) content := by
  cases content with
  | none => exact .null
  | some content => exact .text content

theorem text?_eq_some_iff {value : Value} {content : Text} :
    value.text? = some content ↔ value = .text content := by
  constructor
  · intro isText
    cases value <;> cases isText
    rfl
  · rintro rfl
    rfl

namespace MenuEntry

mutual

/-- An entry as it is stored. Items of a list past the third are refused unless `spare` allows
them. -/
inductive Stores (spare : Bool) : Value → MenuEntry → Prop
  | table {fields : List (Text × Value)} {name : Text} {path : Option Text}
      {children : Option (List MenuEntry)}
      (hasName : fields.lookup "name".toList = some (.text name))
      (hasPath : StoresText (fields.lookup "path".toList) path)
      (hasChildren : StoresChildren spare (fields.lookup "subitems".toList) children) :
      Stores spare (.table fields) (ofParts name path children)
  | list {items : List Value} {name : Text} {path : Option Text}
      {children : Option (List MenuEntry)}
      (hasName : items[0]? = some (.text name)) (hasPath : StoresText items[1]? path)
      (hasChildren : StoresChildren spare items[2]? children)
      (noMore : spare = true ∨ items.length ≤ 3) :
      Stores spare (.list items) (ofParts name path children)

/-- The children of an entry as they are stored. -/
inductive StoresChildren (spare : Bool) : Option Value → Option (List MenuEntry) → Prop
  | absent : StoresChildren spare none none
  | null : StoresChildren spare (some .null) none
  | list {items : List Value} {children : List MenuEntry} (each : StoresEach spare items children) :
      StoresChildren spare (some (.list items)) (some children)

/-- Entries as they are stored. -/
inductive StoresEach (spare : Bool) : List Value → List MenuEntry → Prop
  | nil : StoresEach spare [] []
  | cons {value : Value} {entry : MenuEntry} {values : List Value} {entries : List MenuEntry}
      (first : Stores spare value entry) (rest : StoresEach spare values entries) :
      StoresEach spare (value :: values) (entry :: entries)

end

variable {spare : Bool} {entry : MenuEntry}

theorem stores_table_iff {fields : List (Text × Value)} :
    Stores spare (.table fields) entry ↔
      ∃ name path children, fields.lookup "name".toList = some (.text name) ∧
        StoresText (fields.lookup "path".toList) path ∧
        StoresChildren spare (fields.lookup "subitems".toList) children ∧
        ofParts name path children = entry := by
  constructor
  · rintro ⟨hasName, hasPath, hasChildren⟩
    exact ⟨_, _, _, hasName, hasPath, hasChildren, rfl⟩
  · rintro ⟨name, path, children, hasName, hasPath, hasChildren, rfl⟩
    exact .table hasName hasPath hasChildren

theorem stores_list_iff {items : List Value} :
    Stores spare (.list items) entry ↔
      ∃ name path children, items[0]? = some (.text name) ∧ StoresText items[1]? path ∧
        StoresChildren spare items[2]? children ∧ (spare = true ∨ items.length ≤ 3) ∧
        ofParts name path children = entry := by
  constructor
  · intro stores
    cases stores with
    | list hasName hasPath hasChildren noMore =>
      exact ⟨_, _, _, hasName, hasPath, hasChildren, noMore, rfl⟩
  · rintro ⟨name, path, children, hasName, hasPath, hasChildren, noMore, rfl⟩
    exact .list hasName hasPath hasChildren noMore

theorem storesChildren_none_iff {children : Option (List MenuEntry)} :
    StoresChildren spare none children ↔ children = none := by
  constructor
  · rintro ⟨⟩
    rfl
  · rintro rfl
    exact .absent

mutual

theorem ofValue?_eq_some_iff : (value : Value) → (entry : MenuEntry) →
    (ofValue? spare value = some entry ↔ Stores spare value entry)
  | .table fields, entry => by
    rw [stores_table_iff]
    simp [ofValue?, Option.bind_eq_some_iff, text?_eq_some_iff, optionalText?_eq_some_iff,
      childrenAmong?_eq_some_iff fields]
  | .list [], entry => by
    simp [ofValue?, stores_list_iff]
  | .list [name], entry => by
    simp [ofValue?, stores_list_iff, Option.bind_eq_some_iff, text?_eq_some_iff,
      storesText_none_iff, storesChildren_none_iff]
  | .list [name, path], entry => by
    simp [ofValue?, stores_list_iff, Option.bind_eq_some_iff, text?_eq_some_iff,
      optionalText?_eq_some_iff, storesChildren_none_iff]
  | .list (name :: path :: children :: rest), entry => by
    have noMore : (spare = true ∨ (name :: path :: children :: rest).length ≤ 3) ↔
        (spare || rest.isEmpty) = true := by
      cases rest <;> simp
    rw [stores_list_iff]
    simp only [noMore]
    simp [ofValue?, Option.bind_eq_some_iff, text?_eq_some_iff, optionalText?_eq_some_iff,
      children?_eq_some_iff children]
  | .null, entry | .boolean _, entry | .number _, entry | .moment _, entry | .text _, entry => by
    simp only [ofValue?, reduceCtorEq, false_iff]
    rintro ⟨⟩

theorem childrenAmong?_eq_some_iff : (fields : List (Text × Value)) →
    (children : Option (List MenuEntry)) →
    (childrenAmong? spare fields = some children ↔
      StoresChildren spare (fields.lookup "subitems".toList) children)
  | [], children => by
    rw [childrenAmong?, List.lookup_nil, storesChildren_none_iff]
    exact Option.some_inj.trans eq_comm
  | (key, value) :: rest, children => by
    rw [childrenAmong?, Dictionary.lookup_cons_ite]
    by_cases isSubitems : key = "subitems".toList
    · rw [if_pos isSubitems, if_pos isSubitems.symm, children?_eq_some_iff value]
    · rw [if_neg isSubitems, if_neg (Ne.symm isSubitems), childrenAmong?_eq_some_iff rest]

theorem children?_eq_some_iff : (value : Value) → (children : Option (List MenuEntry)) →
    (children? spare value = some children ↔ StoresChildren spare (some value) children)
  | .list items, children => by
    rw [children?, Option.map_eq_some_iff]
    constructor
    · rintro ⟨entries, found, rfl⟩
      exact .list ((ofValues?_eq_some_iff items entries).1 found)
    · rintro ⟨⟩
      next entries each => exact ⟨entries, (ofValues?_eq_some_iff items entries).2 each, rfl⟩
  | .null, children => by
    rw [children?]
    constructor
    · rintro ⟨⟩
      exact .null
    · rintro ⟨⟩
      rfl
  | .boolean _, _ | .number _, _ | .moment _, _ | .text _, _ | .table _, _ => by
    simp only [children?, reduceCtorEq, false_iff]
    rintro ⟨⟩

theorem ofValues?_eq_some_iff : (values : List Value) → (entries : List MenuEntry) →
    (ofValues? spare values = some entries ↔ StoresEach spare values entries)
  | [], entries => by
    rw [ofValues?]
    constructor
    · rintro ⟨⟩
      exact .nil
    · rintro ⟨⟩
      rfl
  | value :: rest, entries => by
    simp only [ofValues?, Option.bind_eq_bind, Option.bind_eq_some_iff,
      ofValue?_eq_some_iff value, ofValues?_eq_some_iff rest]
    constructor
    · rintro ⟨entry, first, later, each, ⟨⟩⟩
      exact .cons first each
    · rintro ⟨⟩
      next entry later first each => exact ⟨entry, first, later, each, rfl⟩

end

/-! ## What is stored -/

theorem storesText_lookup_pathField (name : Text) (path : Option Text)
    (more : List (Text × Value)) (noPath : more.lookup "path".toList = none) :
    StoresText ((("name".toList, .text name) :: (pathField path ++ more)).lookup "path".toList)
      path := by
  cases path with
  | none =>
    have absent : (("name".toList, .text name) :: (pathField none ++ more)).lookup "path".toList =
      none := noPath
    rw [absent]
    exact .absent
  | some path => exact .text path

mutual

/-- An entry is stored as itself. -/
theorem stores_toValue : (entry : MenuEntry) → Stores spare entry.toValue entry
  | .leaf name path => by
    have hasPath := storesText_lookup_pathField name path [] rfl
    rw [List.append_nil] at hasPath
    rw [toValue]
    refine stores_table_iff.2 ⟨name, path, none, rfl, hasPath, ?_, rfl⟩
    cases path <;> exact .absent
  | .group name path children => by
    have hasPath := storesText_lookup_pathField name path
      [("subitems".toList, .list (toValues children))] rfl
    rw [toValue]
    refine stores_table_iff.2 ⟨name, path, some children, rfl, hasPath, ?_, rfl⟩
    cases path <;> exact .list (storesEach_toValues children)

/-- Entries are stored as themselves. -/
theorem storesEach_toValues : (entries : List MenuEntry) →
    StoresEach spare (toValues entries) entries
  | [] => .nil
  | entry :: entries => .cons (stores_toValue entry) (storesEach_toValues entries)

end

end MenuEntry

/-! ## Themes -/

/-- A menu that may be absent, as it is stored. -/
inductive StoresMenu : Option Value → List MenuEntry → Prop
  | absent : StoresMenu none []
  | list {items : List Value} {menu : List MenuEntry}
      (each : MenuEntry.StoresEach false items menu) : StoresMenu (some (.list items)) menu

theorem menuOfValue?_eq_some_iff {value : Value} {menu : List MenuEntry} :
    MenuEntry.menuOfValue? false value = some menu ↔ StoresMenu (some value) menu := by
  constructor
  · intro found
    cases value with
    | list items => exact .list ((MenuEntry.ofValues?_eq_some_iff items menu).1 found)
    | _ => cases found
  · rintro ⟨⟩
    next items each => exact (MenuEntry.ofValues?_eq_some_iff items menu).2 each

theorem storesMenu_none_iff {menu : List MenuEntry} : StoresMenu none menu ↔ menu = [] := by
  constructor
  · rintro ⟨⟩
    rfl
  · rintro rfl
    exact .absent

namespace Theme

/-- A theme as it is stored: a table in which the menu has either of its names, or a list. -/
inductive Stores : Value → Theme → Prop
  | table {fields : List (Text × Value)} {name logo docsLogo : Option Text}
      {menu : List MenuEntry} (hasName : StoresText (fields.lookup "name".toList) name)
      (hasLogo : StoresText (fields.lookup "logo".toList) logo)
      (hasDocsLogo : StoresText (fields.lookup "docs_logo".toList) docsLogo)
      (oneMenu : fields.lookup "doc_menu".toList = none ∨ fields.lookup "menu".toList = none)
      (hasMenu : StoresMenu
        ((fields.lookup "doc_menu".toList).or (fields.lookup "menu".toList)) menu) :
      Stores (.table fields) ⟨name, logo, docsLogo, menu⟩
  | list {items : List Value} {name logo docsLogo : Option Text} {menu : List MenuEntry}
      (hasName : StoresText items[0]? name) (hasLogo : StoresText items[1]? logo)
      (hasDocsLogo : StoresText items[2]? docsLogo) (hasMenu : StoresMenu items[3]? menu)
      (noMore : items.length ≤ 4) : Stores (.list items) ⟨name, logo, docsLogo, menu⟩

theorem menuAmong?_eq_some_iff {fields : List (Text × Value)} {menu : List MenuEntry} :
    menuAmong? fields = some menu ↔
      (fields.lookup "doc_menu".toList = none ∨ fields.lookup "menu".toList = none) ∧
        StoresMenu ((fields.lookup "doc_menu".toList).or (fields.lookup "menu".toList)) menu := by
  rw [menuAmong?]
  cases fields.lookup "doc_menu".toList with
  | none =>
    cases fields.lookup "menu".toList with
    | none => simp [storesMenu_none_iff, eq_comm]
    | some stored => simp [menuOfValue?_eq_some_iff]
  | some stored =>
    cases fields.lookup "menu".toList <;> simp [menuOfValue?_eq_some_iff]

theorem listedMenu?_eq_some_iff {stored : Option Value} {menu : List MenuEntry} :
    (stored.map (MenuEntry.menuOfValue? false)).getD (some []) = some menu ↔
      StoresMenu stored menu := by
  cases stored with
  | none => simp [storesMenu_none_iff, eq_comm]
  | some value => exact menuOfValue?_eq_some_iff

/-- The values that are read as a theme are those that store it. -/
theorem ofValue?_eq_some_iff {value : Value} {theme : Theme} :
    ofValue? value = some theme ↔ Stores value theme := by
  cases value with
  | table fields =>
    simp only [ofValue?, Option.bind_eq_bind, Option.bind_eq_some_iff, optionalText?_eq_some_iff,
      menuAmong?_eq_some_iff]
    constructor
    · rintro ⟨name, hasName, logo, hasLogo, docsLogo, hasDocsLogo, menu, ⟨oneMenu, hasMenu⟩, ⟨⟩⟩
      exact .table hasName hasLogo hasDocsLogo oneMenu hasMenu
    · rintro ⟨hasName, hasLogo, hasDocsLogo, oneMenu, hasMenu⟩
      exact ⟨_, hasName, _, hasLogo, _, hasDocsLogo, _, ⟨oneMenu, hasMenu⟩, rfl⟩
  | list items =>
    simp only [ofValue?, Option.bind_eq_bind, Option.bind_eq_some_iff, optionalText?_eq_some_iff,
      listedMenu?_eq_some_iff, Option.ite_none_right_eq_some]
    constructor
    · rintro ⟨name, hasName, logo, hasLogo, docsLogo, hasDocsLogo, menu, hasMenu, noMore, ⟨⟩⟩
      exact .list hasName hasLogo hasDocsLogo hasMenu noMore
    · rintro ⟨⟩
      next hasName hasLogo hasDocsLogo hasMenu noMore =>
        exact ⟨_, hasName, _, hasLogo, _, hasDocsLogo, _, hasMenu, noMore, rfl⟩
  | null | boolean _ | number _ | moment _ | text _ =>
    simp only [ofValue?, reduceCtorEq, false_iff]
    rintro ⟨⟩

/-- A theme is stored as itself. -/
theorem stores_toValue (theme : Theme) : Stores theme.toValue theme :=
  .table (storesText_ofOptionalText theme.name) (storesText_ofOptionalText theme.logo)
    (storesText_ofOptionalText theme.docsLogo) (.inr rfl)
    (.list (MenuEntry.storesEach_toValues theme.menu))

/-- A theme that is stored is read as the same theme. The values that are read as a theme are known
by the rules, and if a theme that was read from any of them is stored, it is read as the same theme
again. -/
theorem ofValue?_toValue :
    (∀ theme : Theme, ofValue? theme.toValue = some theme) ∧
      (∀ value theme, ofValue? value = some theme ↔ Stores value theme) ∧
      ∀ value theme, ofValue? value = some theme → ofValue? theme.toValue = some theme := by
  have same (theme : Theme) : ofValue? theme.toValue = some theme :=
    ofValue?_eq_some_iff.2 (stores_toValue theme)
  exact ⟨same, fun _ _ => ofValue?_eq_some_iff, fun _ theme _ => same theme⟩

/-- A table with the other name of the menu, a null, an absent and an unknown field. Its menu has a
group without children that has a path, a list of a name only, and a group in which absent, null and
empty children stand side by side. -/
theorem ofValue?_toValue_of_mixed_forms :
    let stored := .table
      [("logo".toList, .null), ("colour".toList, .boolean true),
        ("menu".toList, .list
          [.table [("subitems".toList, .list []), ("path".toList, .text "/a".toList),
            ("name".toList, .text "A".toList)],
           .list [.text "---".toList],
           .list [.text "B".toList, .null, .list
            [.table [("name".toList, .text "absent".toList)],
             .table [("name".toList, .text "null".toList), ("subitems".toList, .null)],
             .list [.text "empty".toList, .null, .list []]]]]),
        ("name".toList, .text "N".toList)]
    let theme : Theme :=
      ⟨some "N".toList, none, none,
        [.group "A".toList (some "/a".toList) [], .leaf "---".toList none,
         .group "B".toList none
          [.leaf "absent".toList none, .leaf "null".toList none,
           .group "empty".toList none []]]⟩
    ofValue? stored = some theme ∧ ofValue? theme.toValue = some theme := by
  intro stored theme
  have read : ofValue? stored = some theme := by rfl
  exact ⟨read, ofValue?_toValue.2.2 stored theme read⟩

end Theme

end Folio

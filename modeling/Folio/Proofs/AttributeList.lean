import Folio.Dictionary
import Folio.Proofs.Attribute

/-!
# Attribute lists written out

An attribute can be written with its value between quotation marks of either kind, with a bare
value, or as a flag without a value. A quoted value ends at its second mark, but a bare value and a
flag go on up to the next whitespace, so where they end depends on what follows. With whitespace
between neighbours the attributes of a list do not interfere: each is read back under its key in
lower case, in order. As a table the list gives every key the last of its values.
-/

namespace Folio.Attribute

open Text

/-! ## Before whitespace -/

/-- A text that cannot go on with an attribute: it is empty, or starts with whitespace. -/
def AtGap (rest : Text) : Prop :=
  ∀ c, rest.head? = some c → Unicode.isBlank c = true

theorem atGap_of_blank {gap : Text} (blank : ∀ c ∈ gap, Unicode.isBlank c = true) : AtGap gap :=
  fun c first => blank c (List.mem_of_mem_head? first)

/-- Whitespace, if there is any, ends an attribute, whatever comes after it. -/
theorem atGap_append {gap : Text} (nonempty : gap ≠ [])
    (blank : ∀ c ∈ gap, Unicode.isBlank c = true) (rest : Text) : AtGap (gap ++ rest) := by
  cases gap with
  | nil => exact absurd rfl nonempty
  | cons d gap =>
    rintro c ⟨⟩
    exact blank d (List.mem_cons_self ..)

/-- The run of a class without whitespace ends where an attribute cannot go on. -/
theorem run_append_of_atGap {inClass : Char → Bool} {word rest : Text}
    (all : ∀ c ∈ word, inClass c = true)
    (noBlank : ∀ c, Unicode.isBlank c = true → inClass c = false) (atGap : AtGap rest) :
    run inClass (word ++ rest) = (word, rest) := by
  cases rest with
  | nil =>
    rw [List.append_nil]
    exact run_of_all all
  | cons c rest => exact run_append_cons all (noBlank c (atGap c rfl)) rest

/-- The run of characters other than whitespace. -/
theorem run_visible_append {word rest : Text} (visible : ∀ c ∈ word, Unicode.isBlank c = false)
    (atGap : AtGap rest) :
    run (fun c => !Unicode.isBlank c) (word ++ rest) = (word, rest) := by
  apply run_append_of_atGap
  · intro c member
    rw [visible c member]
    rfl
  · intro c blank
    rw [blank]
    rfl
  · exact atGap

theorem quotedValue?_of_head {mark : Char} {text : Text} (other : text.head? ≠ some mark) :
    quotedValue? mark text = none := by
  cases text with
  | nil => rfl
  | cons c text =>
    have notMark : c ≠ mark := fun same => other (congrArg some same)
    rw [quotedValue?, if_neg notMark]

/-- A bare value, which may be empty, ends before whitespace. -/
theorem readValue_bare {value rest : Text} (visible : ∀ c ∈ value, Unicode.isBlank c = false)
    (noDouble : value.head? ≠ some '"') (noSingle : value.head? ≠ some '\'')
    (atGap : AtGap rest) : readValue (value ++ rest) = (value, rest) := by
  have head : ∀ mark, Unicode.isBlank mark = false → value.head? ≠ some mark →
      (value ++ rest).head? ≠ some mark := by
    intro mark noBlank notFirst
    cases value with
    | nil =>
      intro first
      rw [atGap mark first] at noBlank
      exact Bool.false_ne_true noBlank.symm
    | cons c value => exact notFirst
  have notDouble : quotedValue? '"' (value ++ rest) = none :=
    quotedValue?_of_head (head '"' (by decide) noDouble)
  have notSingle : quotedValue? '\'' (value ++ rest) = none :=
    quotedValue?_of_head (head '\'' (by decide) noSingle)
  rw [readValue, notDouble, notSingle]
  exact run_visible_append visible atGap

/-- A word without an equals sign is no key, and neither is one that starts with an equals sign. -/
theorem keyed?_flag {word rest : Text} (visible : ∀ c ∈ word, Unicode.isBlank c = false)
    (noKey : '=' ∈ word → word.head? = some '=') (atGap : AtGap rest) :
    keyed? (word ++ rest) = none := by
  by_cases equals : '=' ∈ word
  · cases word with
    | nil => exact absurd equals List.not_mem_nil
    | cons c word =>
      obtain rfl : c = '=' := Option.some.inj (noKey equals)
      rw [List.cons_append, keyed?_of_run (run_cons_of_neg (by decide) (word ++ rest)), if_pos rfl]
  · have read : run (fun c => !(c == '=' || Unicode.isBlank c)) (word ++ rest) = (word, rest) := by
      apply run_append_of_atGap
      · intro c member
        have notEquals : c ≠ '=' := fun same => equals (same ▸ member)
        simp [notEquals, visible c member]
      · intro c blank
        simp [blank]
      · exact atGap
    have noEquals : dropLead? ['='] rest = none := by
      -- An equals sign is not whitespace, so it does not come right after the word.
      rw [Option.eq_none_iff_forall_ne_some]
      intro tail found
      obtain rfl : rest = '=' :: tail := dropLead?_eq_some_iff.1 found
      exact absurd (atGap '=' rfl) (by decide)
    rw [keyed?_of_run read, noEquals]
    split <;> rfl

theorem attribute?_flag_append {word rest : Text} (nonempty : word ≠ [])
    (visible : ∀ c ∈ word, Unicode.isBlank c = false)
    (noKey : '=' ∈ word → word.head? = some '=') (atGap : AtGap rest) :
    attribute? (word ++ rest) = some (⟨Unicode.lowerCase word, flagValue⟩, rest) := by
  have keyed := keyed?_flag visible noKey atGap
  have read := run_visible_append visible atGap
  cases word with
  | nil => exact absurd rfl nonempty
  | cons c word =>
    rw [List.cons_append] at keyed read ⊢
    rw [attribute?_cons, visible c (List.mem_cons_self ..), turn, keyed, read]
    rfl

/-! ## One attribute -/

/-- The ways to write an attribute. -/
inductive Form where
  | quoted (mark : Char) (key value : Text)
  | bare (key value : Text)
  | flag (word : Text)
deriving DecidableEq, Repr

namespace Form

/-- An attribute as it stands in a tag. -/
def source : Form → Text
  | .quoted mark key value => key ++ '=' :: mark :: (value ++ [mark])
  | .bare key value => key ++ '=' :: value
  | .flag word => word

/-- The key and the value that are meant. -/
def field : Form → Attribute
  | .quoted _ key value => ⟨Unicode.lowerCase key, value⟩
  | .bare key value => ⟨Unicode.lowerCase key, value⟩
  | .flag word => ⟨Unicode.lowerCase word, "true".toList⟩

/-- A key is not empty, and holds neither an equals sign nor whitespace. -/
def IsKey (key : Text) : Prop :=
  key ≠ [] ∧ ∀ c ∈ key, (c == '=' || Unicode.isBlank c) = false

/-- The key and the value of an attribute each end where they are meant to. -/
def Fits : Form → Prop
  | .quoted mark key value => (mark = '"' ∨ mark = '\'') ∧ IsKey key ∧ mark ∉ value
  | .bare key value =>
    IsKey key ∧ (∀ c ∈ value, Unicode.isBlank c = false) ∧
      value.head? ≠ some '"' ∧ value.head? ≠ some '\''
  | .flag word =>
    word ≠ [] ∧ (∀ c ∈ word, Unicode.isBlank c = false) ∧ ('=' ∈ word → word.head? = some '=')

instance (key : Text) : Decidable (IsKey key) :=
  inferInstanceAs (Decidable (_ ∧ _))

instance : DecidablePred Fits
  | .quoted _ _ _ => inferInstanceAs (Decidable (_ ∧ _ ∧ _))
  | .bare _ _ => inferInstanceAs (Decidable (_ ∧ _ ∧ _ ∧ _))
  | .flag _ => inferInstanceAs (Decidable (_ ∧ _ ∧ _))

theorem Fits.source_ne_nil {form : Form} (fits : form.Fits) : form.source ≠ [] := by
  cases form with
  | quoted mark key value => simp [source]
  | bare key value => simp [source]
  | flag word => exact fits.1

/-- An attribute that is written in one of these ways is read back where whitespace follows. -/
theorem Fits.attribute?_append {form : Form} (fits : form.Fits) {rest : Text}
    (atGap : AtGap rest) : attribute? (form.source ++ rest) = some (form.field, rest) := by
  cases form with
  | quoted mark key value =>
    obtain ⟨isMark, ⟨nonempty, plainKey⟩, noMark⟩ := fits
    have split : source (.quoted mark key value) ++ rest =
        key ++ '=' :: mark :: (value ++ mark :: rest) := by simp [source]
    rw [split, attribute?_key_append nonempty plainKey, readValue_quoted isMark noMark]
    rfl
  | bare key value =>
    obtain ⟨⟨nonempty, plainKey⟩, visible, noDouble, noSingle⟩ := fits
    have split : source (.bare key value) ++ rest = key ++ '=' :: (value ++ rest) := by
      simp [source]
    rw [split, attribute?_key_append nonempty plainKey,
      readValue_bare visible noDouble noSingle atGap]
    rfl
  | flag word =>
    obtain ⟨nonempty, visible, noKey⟩ := fits
    exact attribute?_flag_append nonempty visible noKey atGap

end Form

/-! ## Lists of attributes -/

/-- An attribute in a list, with the whitespace before it. -/
structure Entry where
  gap : Text
  form : Form
deriving DecidableEq, Repr

/-- A list of attributes as it is written, with the whitespace after the last one. -/
def writtenList (entries : List Entry) (trail : Text) : Text :=
  entries.flatMap (fun entry => entry.gap ++ entry.form.source) ++ trail

theorem writtenList_cons (entry : Entry) (entries : List Entry) (trail : Text) :
    writtenList (entry :: entries) trail =
      entry.gap ++ (entry.form.source ++ writtenList entries trail) := by
  simp [writtenList]

/-- Only whitespace stands around the attributes of a list, and there is some between any two. -/
@[mk_iff]
structure AreSpaced (entries : List Entry) (trail : Text) : Prop where
  fits : ∀ entry ∈ entries, entry.form.Fits
  gapBlank : ∀ entry ∈ entries, ∀ c ∈ entry.gap, Unicode.isBlank c = true
  trailBlank : ∀ c ∈ trail, Unicode.isBlank c = true
  apart : ∀ entry ∈ entries.tail, entry.gap ≠ []

instance (entries : List Entry) (trail : Text) : Decidable (AreSpaced entries trail) :=
  decidable_of_iff' _ (areSpaced_iff entries trail)

theorem AreSpaced.of_cons {entry : Entry} {entries : List Entry} {trail : Text}
    (spaced : AreSpaced (entry :: entries) trail) : AreSpaced entries trail where
  fits other member := spaced.fits other (List.mem_cons_of_mem entry member)
  gapBlank other member := spaced.gapBlank other (List.mem_cons_of_mem entry member)
  trailBlank := spaced.trailBlank
  apart other member := spaced.apart other (List.mem_of_mem_tail member)

/-- What follows the first attribute of a list cannot be taken for a part of it. -/
theorem AreSpaced.atGap {entry : Entry} {entries : List Entry} {trail : Text}
    (spaced : AreSpaced (entry :: entries) trail) : AtGap (writtenList entries trail) := by
  cases entries with
  | nil => exact atGap_of_blank spaced.trailBlank
  | cons second entries =>
    have isSecond : second ∈ second :: entries := List.mem_cons_self ..
    rw [writtenList_cons]
    apply atGap_append (spaced.apart second isSecond)
    exact spaced.gapBlank second (List.mem_cons_of_mem entry isSecond)

theorem inert_of_blank {gap : Text} (blank : ∀ c ∈ gap, Unicode.isBlank c = true) :
    Inert attribute? gap := by
  induction gap with
  | nil => trivial
  | cons c gap inductionHypothesis =>
    obtain ⟨first, blank⟩ := List.forall_mem_cons.1 blank
    exact inert_cons.2 ⟨fun rest => attribute?_of_blank first (gap ++ rest),
      inductionHypothesis blank⟩

/-- The attributes of a list that is written out are read back in order. -/
theorem list_writtenList {entries : List Entry} {trail : Text}
    (spaced : AreSpaced entries trail) :
    list (writtenList entries trail) = entries.map fun entry => entry.form.field := by
  induction entries with
  | nil => exact items_of_itemFree (inert_of_blank spaced.trailBlank).itemFree
  | cons entry entries inductionHypothesis =>
    have isFirst : entry ∈ entry :: entries := List.mem_cons_self ..
    have fits : entry.form.Fits := spaced.fits entry isFirst
    have found := fits.attribute?_append spaced.atGap
    rw [list, writtenList_cons,
      items_append_of_inert (inert_of_blank (spaced.gapBlank entry isFirst)),
      items_append_of_some fits.source_ne_nil found, List.map_cons]
    exact congrArg (entry.form.field :: ·) (inductionHypothesis spaced.of_cons)

/-! ## Attributes as a table -/

/-- The table that is made by setting the keys of attributes one after another. -/
def table (attributes : List Attribute) : Dictionary :=
  .ofList (attributes.map fun field => (field.key, field.value))

/-- Looking a key up is looking it up in the table. -/
theorem lookup?_eq_find?_table (key : Text) (attributes : List Attribute) :
    lookup? key attributes = (table attributes).find? key := by
  have first : ∀ fields : List Attribute,
      (fields.find? (·.key = key)).map Attribute.value =
        (fields.map fun field => (field.key, field.value)).lookup key := by
    intro fields
    induction fields with
    | nil => rfl
    | cons field fields inductionHypothesis =>
      rw [List.map_cons, Dictionary.lookup_cons_ite, ← inductionHypothesis]
      by_cases same : field.key = key
      · simp [same]
      · simp [same, Ne.symm same]
  rw [lookup?, first, List.map_reverse, table, Dictionary.ofList, Dictionary.find?_insertAll,
    Dictionary.find?_empty, Option.or_none]

/-- A list of attributes that is written out with whitespace between neighbours is read back in
order. The table of what is read gives every key the value that the list gives it last. -/
theorem attributes_of_writtenList {entries : List Entry} {trail : Text}
    (spaced : AreSpaced entries trail) :
    list (writtenList entries trail) = entries.map (fun entry => entry.form.field) ∧
      ∀ key, lookup? key (list (writtenList entries trail)) =
        (table (entries.map fun entry => entry.form.field)).find? key := by
  have read := list_writtenList spaced
  constructor
  · exact read
  · intro key
    rw [read, lookup?_eq_find?_table]

/-- The other quotation mark and equals signs in values, an empty value before several kinds of
whitespace, a flag that starts with an equals sign, and a key that is given twice. -/
theorem attributes_of_writtenList_of_mixed_forms :
    let entries : List Entry :=
      [⟨[], .quoted '"' "Data-Name".toList "a 'b' x=y".toList⟩,
        ⟨" ".toList, .bare "x".toList []⟩,
        ⟨"\t\u2003".toList, .flag "=y=\"z".toList⟩,
        ⟨"\n".toList, .quoted '\'' "X".toList "p=\"q\"".toList⟩,
        ⟨" ".toList, .flag "Hidden".toList⟩]
    let source := "Data-Name=\"a 'b' x=y\" x=\t\u2003=y=\"z\nX='p=\"q\"' Hidden ".toList
    AreSpaced entries " ".toList ∧
      list source =
        [⟨"data-name".toList, "a 'b' x=y".toList⟩, ⟨"x".toList, []⟩,
          ⟨"=y=\"z".toList, "true".toList⟩, ⟨"x".toList, "p=\"q\"".toList⟩,
          ⟨"hidden".toList, "true".toList⟩] ∧
      lookup? "x".toList (list source) = some "p=\"q\"".toList := by
  intro entries source
  have spaced : AreSpaced entries " ".toList := by decide +kernel
  have written : source = writtenList entries " ".toList := by decide +kernel
  obtain ⟨read, found⟩ := attributes_of_writtenList spaced
  refine ⟨spaced, ?_, ?_⟩
  · rw [written, read]
    decide +kernel
  · rw [written, found]
    decide +kernel

end Folio.Attribute

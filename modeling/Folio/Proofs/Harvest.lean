import Folio.Proofs.Attribute
import Folio.Proofs.Declaration
import Folio.Proofs.Entity
import Mathlib.Tactic.MkIffOfInductiveProp

/-!
# Harvesting a template

A declaration block is an opening tag and everything up to the first closing tag. Blocks that are
written in full are found in any template, each with its name, its kind and its body, and what
stands between them is kept.

No template, well written or not, holds a block after it has been harvested. An opening tag stands
on one side of whatever takes the place of a block, never across it. So an opening tag that is
left over was there before, and since it was not read as a block, no closing tag comes after it.
-/

namespace Folio.DeclarationBlock

open Text

/-! ## Blocks in a text -/

/-- The closing tag of a block. -/
def closing : Text := "</aside>".toList

theorem closing_eq : closing = '<' :: "/aside>".toList := by
  unfold closing
  simp

/-- An opening tag has a blank after its name and at least one more character before its end. -/
theorem opening?_eq_some_iff {text attributes after : Text} :
    opening? text = some (attributes, after) ↔
      ∃ blank, Unicode.isBlank blank = true ∧ attributes ≠ [] ∧
        ('<' ∉ attributes ∧ '>' ∉ attributes) ∧
        text = "<aside".toList ++ blank :: (attributes ++ '>' :: after) := by
  constructor
  · intro found
    simp only [opening?, Option.bind_eq_bind, Option.bind_eq_some_iff] at found
    obtain ⟨rest, lead, found⟩ := found
    split at found
    · next first inside tail read =>
      split at found
      · next fits =>
        obtain ⟨rfl, rfl⟩ := Prod.mk.inj (Option.some.inj found)
        obtain ⟨blank, nonempty⟩ := Bool.and_eq_true_iff.1 fits
        obtain ⟨split, all⟩ := eq_append_of_run read
        refine ⟨first, blank, by simpa using nonempty, ?_, ?_⟩
        · exact forall_inside_iff.1 fun c member => all c (List.mem_cons_of_mem first member)
        · rw [dropLead?_eq_some_iff.1 lead, split]
          simp
      · simp at found
    · simp at found
  · rintro ⟨blank, isBlank, nonempty, inside, rfl⟩
    have notBegin : blank ≠ '<' := by
      rintro rfl
      exact absurd isBlank (by decide)
    have notEnd : blank ≠ '>' := by
      rintro rfl
      exact absurd isBlank (by decide)
    have lead : dropLead? "<aside".toList
        ("<aside".toList ++ blank :: (attributes ++ '>' :: after)) =
          some (blank :: attributes ++ '>' :: after) :=
      dropLead?_eq_some_iff.2 (by simp)
    have read : run (fun c => !(c == '<' || c == '>')) (blank :: attributes ++ '>' :: after) =
        (blank :: attributes, '>' :: after) := by
      apply run_append_cons
      · apply forall_inside_iff.2
        simp [inside, Ne.symm notBegin, Ne.symm notEnd]
      · rfl
    rw [opening?, lead, Option.bind_eq_bind, Option.bind_some, read]
    simp [isBlank, nonempty]

theorem block?_eq_some_iff {text after : Text} {block : DeclarationBlock} :
    block? text = some (block, after) ↔
      ∃ rest, opening? text = some (block.attributes, rest) ∧
        cutAt? closing rest = some (block.content, after) := by
  obtain ⟨attributes, content⟩ := block
  simp only [block?, Option.bind_eq_bind, Option.bind_eq_some_iff, Prod.exists, Option.some.injEq,
    Prod.mk.injEq, mk.injEq]
  constructor
  · rintro ⟨_, rest, opened, _, _, closed, ⟨rfl, rfl⟩, rfl⟩
    exact ⟨rest, opened, closed⟩
  · rintro ⟨rest, opened, closed⟩
    exact ⟨attributes, rest, opened, content, after, closed, ⟨rfl, rfl⟩, rfl⟩

/-- A block is a stretch of the text: its opening tag, its content and its closing tag. -/
theorem exists_append_of_block? {text after : Text} {block : DeclarationBlock}
    (found : block? text = some (block, after)) :
    ∃ blank, '<' ∉ block.attributes ∧
      text = "<aside".toList ++ blank :: (block.attributes ++ '>' ::
        (block.content ++ closing ++ after)) := by
  obtain ⟨rest, opened, closed⟩ := block?_eq_some_iff.1 found
  obtain ⟨blank, -, -, ⟨noBegin, -⟩, split⟩ := opening?_eq_some_iff.1 opened
  exact ⟨blank, noBegin, by rw [split, eq_of_cutAt? closed]⟩

theorem lead_of_block? {text : Text} {value : DeclarationBlock × Text}
    (found : block? text = some value) : ∃ rest, text = '<' :: "aside".toList ++ rest := by
  obtain ⟨block, after⟩ := value
  obtain ⟨blank, -, split⟩ := exists_append_of_block? found
  exact ⟨_, split⟩

theorem block?_proper : Proper block? := by
  intro text after block found
  obtain ⟨blank, -, split⟩ := exists_append_of_block? found
  refine ⟨"<aside".toList ++ blank :: (block.attributes ++ '>' :: (block.content ++ closing)),
    by simp, ?_⟩
  rw [split]
  simp

/-- A block that is written in full is read as it is meant, whatever follows it. -/
theorem readsAs_block {attributes content : Text} (nonempty : attributes ≠ [])
    (inside : '<' ∉ attributes ∧ '>' ∉ attributes) (noClosing : hasPart closing content = false) :
    ReadsAs block? ("<aside ".toList ++ attributes ++ ['>'] ++ content ++ closing)
      ⟨attributes, content⟩ := by
  refine ⟨by simp, ?_⟩
  intro rest
  have closed : cutAt? closing (content ++ closing ++ rest) = some (content, rest) := by
    rw [closing_eq] at noClosing ⊢
    exact cutAt?_of_absent (by decide) noClosing rest
  refine block?_eq_some_iff.2 ⟨content ++ closing ++ rest, ?_, closed⟩
  refine opening?_eq_some_iff.2 ⟨' ', by decide, nonempty, inside, ?_⟩
  simp

/-! ## What takes the place of a block -/

/-- The name of an accepted block is one of its attributes. -/
theorem name?_of_declaration {block : DeclarationBlock} {declaration : Declaration}
    (accepted : block.declaration = .ok declaration) :
    name? (Attribute.list block.attributes) = some declaration.name := by
  unfold DeclarationBlock.declaration at accepted
  dsimp only at accepted
  split at accepted
  · simp at accepted
  · next name named =>
    split at accepted
    · simp at accepted
    · split at accepted
      · simp at accepted
      · obtain rfl := Except.ok.inj accepted
        exact named

/-- The characters of a name come from the attributes of its block, unless the name is the value
that a flag stands for. -/
theorem name_subset_of_declaration {block : DeclarationBlock} {declaration : Declaration}
    (accepted : block.declaration = .ok declaration) :
    declaration.name = Attribute.flagValue ∨ declaration.name ⊆ block.attributes := by
  have named := (Option.filter_eq_some_iff.1 (name?_of_declaration accepted)).1
  cases first : Attribute.lookup? "data-name".toList (Attribute.list block.attributes) with
  | some value =>
    rw [first] at named
    exact Attribute.lookup?_subset (first.trans named)
  | none =>
    rw [first] at named
    exact Attribute.lookup?_subset named

/-- A name holds no character of markup that its attributes do not hold. -/
theorem not_mem_name {block : DeclarationBlock} {declaration : Declaration} {c : Char}
    (notInFlag : c ∉ Attribute.flagValue) (absent : c ∉ block.attributes)
    (accepted : block.declaration = .ok declaration) : c ∉ declaration.name := by
  intro member
  rcases name_subset_of_declaration accepted with isFlag | inside
  · rw [isFlag] at member
    exact notInFlag member
  · exact absent (inside member)

/-- No block starts in a text in which no opening tag starts. -/
theorem inert_block? {text : Text} (inert : Inert (dropLead? "<aside".toList) text) :
    Inert block? text :=
  inert.of_lead lead_of_block?

theorem inert_block?_of_not_mem {text : Text} (noBegin : '<' ∉ text) : Inert block? text := by
  have lead : "<aside".toList = '<' :: "aside".toList := by simp
  apply inert_block?
  rw [lead]
  exact inert_of_not_mem noBegin

theorem comment_eq (declaration : Declaration) :
    declaration.comment = '<' :: ("!-- macro ".toList ++ declaration.name ++ " -->".toList) := by
  unfold Declaration.comment
  simp

theorem fragment_eq (notice : Notice) :
    notice.fragment = '<' :: ("div class='ui negative message'>".toList ++
      Entity.quote notice.message ++ "</div>".toList) := by
  unfold Notice.fragment
  simp

/-- A comment or a notice takes the place of a block, and both start with a tag. -/
theorem exists_cons_replacement (outcome : Except Notice Declaration) :
    ∃ text, replacement outcome = '<' :: text := by
  cases outcome with
  | ok declaration => exact ⟨_, comment_eq declaration⟩
  | error notice => exact ⟨_, fragment_eq notice⟩

theorem inert_fragment (notice : Notice) : Inert block? notice.fragment := by
  have open_ : Inert block? "<div class='ui negative message'>".toList :=
    inert_block? (by decide)
  have message : Inert block? (Entity.quote notice.message) :=
    inert_block?_of_not_mem (Entity.not_mem_quote rfl notice.message)
  exact (open_.append message).append (inert_block? (by decide))

theorem inert_comment {declaration : Declaration} (noBegin : '<' ∉ declaration.name) :
    Inert block? declaration.comment :=
  ((inert_block? (by decide)).append (inert_block?_of_not_mem noBegin)).append
    (inert_block? (by decide))

/-- No block starts in what takes the place of a block. -/
theorem inert_replacement {block : DeclarationBlock} (noBegin : '<' ∉ block.attributes) :
    Inert block? (replacement block.declaration) := by
  cases accepted : block.declaration with
  | error notice => exact inert_fragment notice
  | ok declaration => exact inert_comment (not_mem_name (by decide) noBegin accepted)

/-! ## A harvested template -/

/-- A template with something in place of each block. -/
def stripped (template : Text) : Text :=
  substitute block? (fun block => replacement block.declaration) template

theorem stripped_cons_of_none {c : Char} {text : Text} (missed : block? (c :: text) = none) :
    stripped (c :: text) = c :: stripped text := by
  rw [stripped, substitute, pieces_cons_of_none missed]
  rfl

theorem stripped_append_of_some {taken after : Text} {block : DeclarationBlock}
    (nonempty : taken ≠ []) (found : block? (taken ++ after) = some (block, after)) :
    stripped (taken ++ after) = replacement block.declaration ++ stripped after := by
  rw [stripped, substitute, pieces_append_of_some nonempty found]
  rfl

/-- What a harvested template starts with, up to the next tag, stood at the start of the template
too. -/
theorem exists_append_of_stripped {lead rest : Text} (noBegin : '<' ∉ lead) {text : Text}
    (same : stripped text = lead ++ rest) :
    ∃ tail, text = lead ++ tail ∧ stripped tail = rest := by
  induction lead generalizing text with
  | nil => exact ⟨text, rfl, same⟩
  | cons d lead inductionHypothesis =>
    simp only [List.mem_cons, not_or] at noBegin
    cases text with
    | nil => simp [stripped] at same
    | cons c text =>
      cases found : block? (c :: text) with
      | none =>
        rw [stripped_cons_of_none found, List.cons_append] at same
        obtain ⟨rfl, sameRest⟩ := List.cons.inj same
        obtain ⟨tail, rfl, sameTail⟩ := inductionHypothesis noBegin.2 sameRest
        exact ⟨tail, rfl, sameTail⟩
      | some result =>
        obtain ⟨block, after⟩ := result
        obtain ⟨taken, nonempty, split⟩ := block?_proper found
        rw [split] at found same
        rw [stripped_append_of_some nonempty found] at same
        obtain ⟨inside, isTag⟩ := exists_cons_replacement block.declaration
        rw [isTag, List.cons_append, List.cons_append] at same
        exact absurd (List.cons.inj same).1 noBegin.1

/-- Without a closing tag there is no block. -/
theorem itemFree_of_noClosing {text : Text} (noClosing : hasPart closing text = false) :
    ItemFree block? text := by
  refine itemFree_of_absent ?_ noClosing
  rintro text ⟨block, after⟩ found
  obtain ⟨blank, -, split⟩ := exists_append_of_block? found
  refine hasPart_iff.2
    ⟨"<aside".toList ++ blank :: (block.attributes ++ '>' :: block.content), after, ?_⟩
  rw [split]
  simp

/-- A harvested template holds no block. An opening tag in it stood in the template as it is, and
no closing tag came after it there, or it would have been read as the start of a block. -/
theorem itemFree_stripped (template : Text) : ItemFree block? (stripped template) := by
  induction template using scan_induction block?_proper with
  | nil => trivial
  | plain c text missed inductionHypothesis =>
    rw [stripped_cons_of_none missed]
    refine itemFree_cons.2 ⟨?_, inductionHypothesis⟩
    rw [Option.eq_none_iff_forall_ne_some] at missed ⊢
    rintro ⟨block, after⟩ found
    obtain ⟨rest, opened, closed⟩ := block?_eq_some_iff.1 found
    obtain ⟨blank, isBlank, nonempty, inside, split⟩ := opening?_eq_some_iff.1 opened
    have notBegin : blank ≠ '<' := by
      rintro rfl
      exact absurd isBlank (by decide)
    have tag : c = '<' ∧ stripped text =
        ("aside".toList ++ blank :: (block.attributes ++ ['>'])) ++ rest := by
      simpa using split
    obtain ⟨rfl, same⟩ := tag
    have noBegin : '<' ∉ "aside".toList ++ blank :: (block.attributes ++ ['>']) := by
      simp [inside.1, Ne.symm notBegin]
    obtain ⟨tail, rfl, sameTail⟩ := exists_append_of_stripped noBegin same
    have openedBefore : opening? ('<' :: ("aside".toList ++ blank :: (block.attributes ++ ['>']) ++
        tail)) = some (block.attributes, tail) :=
      opening?_eq_some_iff.2 ⟨blank, isBlank, nonempty, inside, by simp⟩
    cases cut : cutAt? closing tail with
    | some parts =>
      obtain ⟨content, left⟩ := parts
      apply missed (⟨block.attributes, content⟩, left)
      exact block?_eq_some_iff.2 ⟨tail, openedBefore, cut⟩
    | none =>
      have unchanged : stripped tail = tail :=
        substitute_of_itemFree (itemFree_of_noClosing (hasPart_eq_false_iff.2 cut)) _
      rw [← sameTail, unchanged, cut] at closed
      simp at closed
  | item taken after block nonempty found inductionHypothesis =>
    rw [stripped_append_of_some nonempty found]
    obtain ⟨blank, noBegin, -⟩ := exists_append_of_block? found
    exact (inert_replacement noBegin).itemFree_append inductionHypothesis

end Folio.DeclarationBlock

namespace Folio

open Text DeclarationBlock

/-- A template without a block is kept, and declares nothing. -/
theorem harvest_of_itemFree {template : Text} (free : ItemFree block? template) :
    harvest template = ⟨template, [], []⟩ := by
  rw [harvest, blockOutcomes, items_of_itemFree free, substitute_of_itemFree free]
  rfl

/-- A template in which no tag starts declares nothing. -/
theorem harvest_of_not_mem {template : Text} (noBegin : '<' ∉ template) :
    harvest template = ⟨template, [], []⟩ :=
  harvest_of_itemFree (inert_block?_of_not_mem noBegin).itemFree

/-- A harvested template is kept by another harvest, which finds nothing in it: no declaration block
stands anywhere in it, not even one that would be rejected. -/
theorem harvest_harvest (template : Text) :
    harvest (harvest template).template = ⟨(harvest template).template, [], []⟩ ∧
      ItemFree block? (harvest template).template := by
  have free : ItemFree block? (harvest template).template := itemFree_stripped template
  exact ⟨harvest_of_itemFree free, free⟩

/-! ## Blocks written in full -/

/-- A declaration block as it is written in full, and the text up to the next one. -/
structure WrittenBlock where
  name : Text
  classes : Text
  body : Text
  gap : Text

namespace WrittenBlock

/-- The block as it stands in a template. -/
def source (block : WrittenBlock) : Text :=
  "<aside data-name=\"".toList ++ block.name ++ "\" class=\"".toList ++ block.classes ++
    "\">".toList ++ block.body ++ "</aside>".toList

/-- The kind that the classes of a block give. -/
def kind (block : WrittenBlock) : BlockKind :=
  .classify (some block.classes)

/-- What a block declares. The body of an aside stands between the marks of its region. -/
def declaration (block : WrittenBlock) : Declaration where
  kind := block.kind
  name := block.name
  body :=
    if block.kind = .aside then
      "<!-- BEGIN-ASIDE ".toList ++ block.name ++ " -->".toList ++ block.body ++
        "<!-- END-ASIDE -->".toList
    else block.body

/-- The comment that stands in the harvested template for a block. -/
def comment (block : WrittenBlock) : Text :=
  "<!-- macro ".toList ++ block.name ++ " -->".toList

/-- The name, the classes and the body of a block each end where they are meant to, the name can
be used, and no block starts in the text after the block. -/
@[mk_iff]
structure Fits (block : WrittenBlock) : Prop where
  named : block.name ≠ []
  nameNoBlank : ∀ c ∈ block.name, Unicode.isBlank c = false
  nameNoMark : '<' ∉ block.name ∧ '>' ∉ block.name ∧ '"' ∉ block.name
  classesNoMark : '<' ∉ block.classes ∧ '>' ∉ block.classes ∧ '"' ∉ block.classes
  bodyNoClosing : hasPart "</aside>".toList block.body = false
  notReserved : ¬ (block.kind = .aside ∧ block.name = "main".toList)
  gapNoBlock : hasPart "<aside".toList block.gap = false

instance (block : WrittenBlock) : Decidable block.Fits :=
  decidable_of_iff' _ (fits_iff block)

/-- The text of the attributes of a block. -/
def attributes (block : WrittenBlock) : Text :=
  Attribute.written "data-name".toList block.name ++
    ' ' :: Attribute.written "class".toList block.classes

theorem source_eq (block : WrittenBlock) :
    block.source = "<aside ".toList ++ block.attributes ++ ['>'] ++ block.body ++ closing := by
  unfold source attributes closing Attribute.written
  simp

variable {block : WrittenBlock}

theorem Fits.list_attributes (fits : block.Fits) :
    Attribute.list block.attributes =
      [⟨"data-name".toList, block.name⟩, ⟨"class".toList, block.classes⟩] := by
  have name : ReadsAs Attribute.attribute? (Attribute.written "data-name".toList block.name)
      ⟨"data-name".toList, block.name⟩ :=
    Attribute.readsAs_written (by decide) (by decide) fits.nameNoMark.2.2
  have classes : ReadsAs Attribute.attribute? (Attribute.written "class".toList block.classes)
      ⟨"class".toList, block.classes⟩ :=
    Attribute.readsAs_written (by decide) (by decide) fits.classesNoMark.2.2
  have classesEnd := pieces_append_of_readsAs classes []
  rw [List.append_nil] at classesEnd
  rw [Attribute.list, items, attributes, pieces_append_of_readsAs name,
    pieces_cons_of_none (Attribute.attribute?_of_blank (by decide) _), classesEnd]
  rfl

/-- A block that is written in full is accepted. -/
theorem Fits.declaration_eq (fits : block.Fits) :
    DeclarationBlock.declaration ⟨block.attributes, block.body⟩ = .ok block.declaration := by
  have nameFound : name? (Attribute.list block.attributes) = some block.name := by
    have found : Attribute.lookup? "data-name".toList
        [⟨"data-name".toList, block.name⟩, ⟨"class".toList, block.classes⟩] = some block.name := rfl
    have nonempty : (!block.name.isEmpty) = true := by simpa using fits.named
    rw [fits.list_attributes, name?, found]
    simp only [Option.orElse, Option.filter, nonempty, if_true]
  have classesFound : Attribute.lookup? "class".toList (Attribute.list block.attributes) =
      some block.classes := by
    rw [fits.list_attributes]
    rfl
  have noBlank : block.name.any Unicode.isBlank = false := by
    simpa using fits.nameNoBlank
  have notReserved : ¬ (BlockKind.classify (some block.classes) = .aside ∧
      block.name = mainRegion) := fits.notReserved
  unfold DeclarationBlock.declaration
  simp only [nameFound, classesFound, noBlank, if_neg notReserved]
  rfl

theorem Fits.readsAs_source (fits : block.Fits) :
    ReadsAs block? block.source ⟨block.attributes, block.body⟩ := by
  rw [source_eq]
  apply readsAs_block
  · simp [attributes, Attribute.written]
  · have name := fits.nameNoMark
    have classes := fits.classesNoMark
    simp [attributes, Attribute.written, name.1, name.2.1, classes.1, classes.2.1]
  · exact fits.bodyNoClosing

/-- A template of blocks as it is written: a text, and then the blocks with a text after each. -/
def template (lead : Text) (blocks : List WrittenBlock) : Text :=
  lead ++ blocks.flatMap fun block => block.source ++ block.gap

/-- Each block of a template of blocks is one item, and the text around it is plain. -/
theorem pieces_template {lead : Text} {blocks : List WrittenBlock}
    (leadNoBlock : hasPart "<aside".toList lead = false) (fits : ∀ block ∈ blocks, block.Fits) :
    pieces block? (template lead blocks) =
      lead.map Piece.plain ++ blocks.flatMap fun block =>
        .item ⟨block.attributes, block.body⟩ :: block.gap.map Piece.plain := by
  have tag : "<aside".toList = '<' :: "aside".toList := by simp
  have once : '<' ∉ "aside".toList := by decide
  rw [tag] at leadNoBlock
  refine pieces_row_of_absent once lead_of_block? leadNoBlock ?_ ?_
  · exact fun block isBlock => (fits block isBlock).readsAs_source
  · intro block isBlock
    rw [← tag]
    exact (fits block isBlock).gapNoBlock

theorem blockOutcomes_template {lead : Text} {blocks : List WrittenBlock}
    (leadNoBlock : hasPart "<aside".toList lead = false) (fits : ∀ block ∈ blocks, block.Fits) :
    blockOutcomes (template lead blocks) = blocks.map fun block => .ok block.declaration := by
  rw [blockOutcomes, items, pieces_template leadNoBlock fits, ← Piece.items, Piece.items_append,
    Piece.items_map_plain, List.nil_append, Piece.items_row, List.map_map]
  exact List.map_congr_left fun block isBlock => (fits block isBlock).declaration_eq

theorem stripped_template {lead : Text} {blocks : List WrittenBlock}
    (leadNoBlock : hasPart "<aside".toList lead = false) (fits : ∀ block ∈ blocks, block.Fits) :
    stripped (template lead blocks) =
      lead ++ blocks.flatMap fun block => block.comment ++ block.gap := by
  rw [stripped, substitute, pieces_template leadNoBlock fits, List.flatMap_append,
    Piece.flatMap_expand_map_plain, Piece.expand_row]
  refine congrArg (lead ++ ·) (List.flatMap_congr ?_)
  intro block isBlock
  rw [(fits block isBlock).declaration_eq]
  rfl

end WrittenBlock

/-- Every block of a template of blocks is declared, in order and without a notice, and a comment
takes its place. Nothing else in the template changes, and nothing of a body is left in it. -/
theorem harvest_template {lead : Text} {blocks : List WrittenBlock}
    (leadNoBlock : hasPart "<aside".toList lead = false) (fits : ∀ block ∈ blocks, block.Fits) :
    harvest (WrittenBlock.template lead blocks) =
      { template := lead ++ blocks.flatMap fun block => block.comment ++ block.gap
        declarations := blocks.map WrittenBlock.declaration
        notices := [] } := by
  have template := WrittenBlock.stripped_template leadNoBlock fits
  rw [stripped] at template
  rw [harvest, template, WrittenBlock.blockOutcomes_template leadNoBlock fits,
    List.filterMap_map, List.filterMap_map]
  simp

/-- A body may hold an opening tag, and the text between blocks a closing tag or the start of an
opening tag. -/
theorem harvest_template_with_stray_tags :
    let blocks : List WrittenBlock :=
      [⟨"note".toList, "wide aside".toList, "<aside x>@BODY@".toList, " </aside> ".toList⟩,
        ⟨"it's".toList, "k='v'".toList, [], "<asid".toList⟩]
    let template := "Top <aside data-name=\"note\" class=\"wide aside\">".toList ++
      "<aside x>@BODY@</aside> </aside> ".toList ++
      "<aside data-name=\"it's\" class=\"k='v'\"></aside><asid".toList
    hasPart "<aside".toList "Top ".toList = false ∧ (∀ block ∈ blocks, block.Fits) ∧
      harvest template =
        { template := "Top <!-- macro note --> </aside> <!-- macro it's --><asid".toList
          declarations :=
            [⟨.aside, "note".toList,
                "<!-- BEGIN-ASIDE note --><aside x>@BODY@<!-- END-ASIDE -->".toList⟩,
              ⟨.plain, "it's".toList, []⟩]
          notices := [] } := by
  intro blocks template
  have leadNoBlock : hasPart "<aside".toList "Top ".toList = false := by decide
  have fits : ∀ block ∈ blocks, block.Fits := by decide +kernel
  have written : template = WrittenBlock.template "Top ".toList blocks := by decide +kernel
  refine ⟨leadNoBlock, fits, ?_⟩
  rw [written, harvest_template leadNoBlock fits]
  decide +kernel

end Folio

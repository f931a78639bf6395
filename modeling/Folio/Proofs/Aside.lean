import Folio.Proofs.Declaration
import Folio.Proofs.Document
import Folio.Proofs.Register
import Folio.Proofs.Region
import Mathlib.Tactic.MkIffOfInductiveProp

/-!
# Asides from the template to the registers

A template declares an aside, a `~` heading of a page opens it and a bare heading closes it. Three
passes take part in this: the harvest sets the marks of the region around the body, the headings
put the two halves of the body around the content, and the routing of regions cuts everything
between the marks out of the page again. This module says what is in the registers in the end.
-/

namespace Folio

/-- No comment starts in a text: it neither holds `<!` nor ends with `<`. -/
@[mk_iff]
structure Text.CommentFree (text : Text) : Prop where
  noLead : Text.hasPart "<!".toList text = false
  noEnd : text.getLast? ≠ some '<'

instance (text : Text) : Decidable text.CommentFree :=
  decidable_of_iff' _ (Text.commentFree_iff text)

theorem Text.CommentFree.inert {text : Text} (free : text.CommentFree) (mark : Text) :
    Text.Inert (Text.dropLead? ('<' :: '!' :: mark)) text :=
  Text.inert_of_pair (fun found => ⟨_, Text.dropLead?_eq_some_iff.1 found⟩) free.noLead free.noEnd

/-- One use of an aside in a page: the word and the argument of the heading that opens it, the
content up to the bare heading that closes it, and the text up to the next use. -/
structure AsideUse where
  name : Text
  argument : Text
  content : Text
  gap : Text

namespace AsideUse

/-- A use as it is written in a page. -/
def source (use : AsideUse) : Text :=
  "<h1>~".toList ++ use.name ++ " ".toList ++ use.argument ++ "</h1>".toList ++ use.content ++
    "<h1>~</h1>".toList ++ use.gap

/-- What a use gives to its region, for the parts of each declared body before and after the
content. -/
def contribution (before after : Text → Text) (use : AsideUse) : Text :=
  Text.replaceAll "@ARGS@".toList (Entity.requote use.argument) (before use.name) ++
    use.content ++ after use.name

/-- A use names an aside that the template declares, and none of its texts holds anything that
is read as a heading or as a comment. -/
@[mk_iff]
structure Fits (template : Text) (before after : Text → Text) (use : AsideUse) : Prop where
  declared : Declaration.last? .boxes use.name (harvest template).declarations =
    some (.ofBody .aside use.name (before use.name ++ bodyMark ++ after use.name))
  noAt : '@' ∉ use.name
  requoted : Entity.requote use.name = use.name
  argumentNoTag : '<' ∉ use.argument
  argumentOneLine : '\n' ∉ use.argument
  argumentTrimmed : Text.trimStart use.argument = use.argument
  contentNoHeading : Text.hasPart "<h".toList use.content = false
  contentFree : use.content.CommentFree
  gapNoHeading : Text.hasPart "<h".toList use.gap = false
  gapFree : use.gap.CommentFree
  openingFree : Text.CommentFree
    (Text.replaceAll "@ARGS@".toList (Entity.requote use.argument) (before use.name))
  closingFree : (after use.name).CommentFree

instance (template : Text) (before after : Text → Text) (use : AsideUse) :
    Decidable (use.Fits template before after) :=
  decidable_of_iff' _ (fits_iff template before after use)

/-! ## A use in the page -/

/-- The command that opens the aside. -/
def command (use : AsideUse) : Command := ⟨.box, use.name, use.argument⟩

/-- The parts of a use. -/
def parts (use : AsideUse) : List PagePart :=
  [.opening use.name use.argument, .plain use.content, .closing, .plain use.gap]

theorem document_parts (use : AsideUse) : PagePart.document use.parts = use.source := by
  unfold source
  simp [PagePart.document, parts, PagePart.opening, PagePart.closing, PagePart.source,
    Command.written]

theorem commands_parts (use : AsideUse) :
    PagePart.commands use.parts = [use.command, ⟨.box, [], []⟩] :=
  rfl

variable {template : Text} {before after : Text → Text} {use : AsideUse}

/-- The name of a declared aside is fit for a heading and for a region of its own. -/
theorem Fits.named (fits : use.Fits template before after) :
    use.name ≠ [] ∧ (∀ c ∈ use.name, Unicode.isBlank c = false) ∧ use.name ≠ mainRegion := by
  obtain ⟨block, -, accepted⟩ :=
    exists_block_of_mem_harvest (Declaration.mem_of_last? fits.declared)
  obtain ⟨-, nonempty, noBlank, notMain⟩ :=
    DeclarationBlock.eq_ofBody_of_declaration accepted
  exact ⟨nonempty, noBlank, fun isMain => notMain ⟨rfl, isMain⟩⟩

theorem Fits.isRead (fits : use.Fits template before after) :
    ∀ part ∈ use.parts, part.IsRead := by
  obtain ⟨nonempty, noBlank, -⟩ := fits.named
  have nameNoTag : '<' ∉ use.name := by
    rw [← fits.requoted]
    exact Entity.not_mem_requote rfl use.name
  intro part member
  simp only [parts, List.mem_cons, List.not_mem_nil, or_false] at member
  rcases member with rfl | rfl | rfl | rfl
  · exact PagePart.isRead_opening nonempty noBlank nameNoTag fits.argumentNoTag
      fits.argumentOneLine fits.argumentTrimmed
  · exact PagePart.isRead_plain fits.contentNoHeading fits.contentFree.noEnd
  · exact PagePart.isRead_closing
  · exact PagePart.isRead_plain fits.gapNoHeading fits.gapFree.noEnd

/-- The heading of a use opens the aside that the template declares. -/
theorem Fits.opened (fits : use.Fits template before after) (defaults : Defaults) :
    use.command.opened? (defaults.tables.declareAll (harvest template).declarations) =
      some (asideBegin use.name ++ (before use.name ++ bodyMark ++ after use.name) ++
        asideEnd) := by
  have found := find?_declareAll defaults (harvest template).declarations .boxes use.name
  rw [fits.declared] at found
  rw [Command.opened?, if_pos ⟨rfl, fits.named.1⟩, Command.name, command, fits.requoted]
  exact found

theorem not_mem_asideBegin {name : Text} (noAt : '@' ∉ name) : '@' ∉ asideBegin name := by
  unfold asideBegin
  simp [noAt]

/-- A text without the body mark makes none together with the mark after it, unless it ends with
the body mark but for its last character. -/
theorem hasPart_append_dropLast {before : Text} (absent : Text.hasPart bodyMark before = false)
    (noOverlap : ¬ bodyMark.dropLast <:+ before) :
    Text.hasPart bodyMark (before ++ bodyMark.dropLast) = false := by
  have lastSign : ∀ last, bodyMark.getLast? = some last → last ∉ "BODY".toList := by
    intro last ends
    obtain rfl : '@' = last := Option.some.inj ends
    decide
  have cut := Text.cutAt?_append_of_last (by decide) lastSign (before ++ ['@'])
  have split : before ++ bodyMark.dropLast = before ++ ['@'] ++ "BODY".toList := by
    simp [bodyMark]
  rw [split, Text.hasPart, cut, Option.isSome_map, ← Text.hasPart, ← Bool.not_eq_true,
    Text.hasPart_iff]
  rintro ⟨front, back, whole⟩
  rcases List.eq_nil_or_concat back with rfl | ⟨back, last, rfl⟩
  · apply noOverlap
    have same : before = front ++ bodyMark.dropLast := by
      have shorter := congrArg List.dropLast whole
      simpa [bodyMark] using shorter
    exact ⟨front, same.symm⟩
  · have same : before = front ++ bodyMark ++ back := by
      have shorter := congrArg List.dropLast whole
      simpa using shorter
    rw [same, Text.hasPart_append] at absent
    simp at absent

/-- The body of an aside is cut at the mark that stands in it, not in its name. -/
theorem splitBox_aside {name before : Text} (noAt : '@' ∉ name)
    (first : Text.hasPart bodyMark (before ++ bodyMark.dropLast) = false) (after : Text) :
    splitBox (asideBegin name ++ (before ++ bodyMark ++ after) ++ asideEnd) =
      (asideBegin name ++ before, after ++ asideEnd) := by
  have quiet : Text.Inert (Text.dropLead? bodyMark) (asideBegin name) :=
    Text.inert_of_not_mem (not_mem_asideBegin noAt)
  rw [splitBox, List.append_assoc, Text.cutAt?_append_of_inert quiet, List.append_assoc,
    Text.cutAt?_of_first (by decide) first]
  rfl

/-! ## A use after the headings -/

/-- What the headings make of a use. -/
def shown (before after : Text → Text) (use : AsideUse) : Text :=
  asideBegin use.name ++ use.contribution before after ++ asideEnd ++ use.gap

theorem Fits.emitted_parts (fits : use.Fits template before after)
    (first : Text.hasPart bodyMark (before use.name ++ bodyMark.dropLast) = false)
    (defaults : Defaults) (held : Option Text) :
    PagePart.emitted (defaults.tables.declareAll (harvest template).declarations) held use.parts =
      use.shown before after := by
  have quiet : Text.Inert (Text.dropLead? "@ARGS@".toList) (asideBegin use.name) :=
    Text.inert_of_not_mem (not_mem_asideBegin fits.noAt)
  have opens := fits.opened defaults
  rw [parts, PagePart.emitted_opening_cons opens, splitBox_aside fits.noAt first,
    PagePart.emitted_plain_cons, PagePart.emitted_closing_cons, PagePart.emitted_plain_cons,
    PagePart.emitted_nil, Text.replaceAll_append_of_inert quiet, shown, contribution]
  simp

/-- Each use gives its own, whatever the uses before it have left open. -/
theorem emitted_uses {uses : List AsideUse} (fits : ∀ use ∈ uses, use.Fits template before after)
    (first : ∀ use ∈ uses, Text.hasPart bodyMark (before use.name ++ bodyMark.dropLast) = false)
    (defaults : Defaults) (held : Option Text) :
    PagePart.emitted (defaults.tables.declareAll (harvest template).declarations) held
      (uses.flatMap parts) = uses.flatMap (shown before after) := by
  induction uses generalizing held with
  | nil => rfl
  | cons use uses inductionHypothesis =>
    obtain ⟨useFits, fits⟩ := List.forall_mem_cons.1 fits
    obtain ⟨useFirst, first⟩ := List.forall_mem_cons.1 first
    rw [List.flatMap_cons, PagePart.emitted_append, useFits.emitted_parts useFirst,
      inductionHypothesis fits first, List.flatMap_cons]

/-! ## A page of uses -/

/-- The parts of a page: a text and then the uses. -/
def page (lead : Text) (uses : List AsideUse) : List PagePart :=
  .plain lead :: uses.flatMap parts

theorem document_page (lead : Text) (uses : List AsideUse) :
    PagePart.document (page lead uses) = lead ++ uses.flatMap source := by
  have written : PagePart.document (uses.flatMap parts) = uses.flatMap source := by
    rw [PagePart.document, List.flatMap_assoc]
    exact List.flatMap_congr fun use _ => document_parts use
  rw [← written]
  rfl

theorem isReadAs_page {lead : Text} {uses : List AsideUse}
    (leadNoHeading : Text.hasPart "<h".toList lead = false) (leadFree : lead.CommentFree)
    (fits : ∀ use ∈ uses, use.Fits template before after) :
    PagePart.IsReadAs (lead ++ uses.flatMap source) (page lead uses) := by
  rw [← document_page]
  apply PagePart.isReadAs_document
  refine List.forall_mem_cons.2 ⟨PagePart.isRead_plain leadNoHeading leadFree.noEnd, ?_⟩
  intro part member
  obtain ⟨use, isUse, isPart⟩ := List.mem_flatMap.1 member
  exact (fits use isUse).isRead part isPart

/-- Every heading of the page is bare or opens a declared aside. -/
theorem not_isIdle_of_mem_page {uses : List AsideUse}
    (fits : ∀ use ∈ uses, use.Fits template before after) (defaults : Defaults) (lead : Text) :
    ∀ command ∈ PagePart.commands (page lead uses),
      ¬ command.IsIdle (defaults.tables.declareAll (harvest template).declarations) := by
  intro command member
  obtain ⟨part, isPart, commanded⟩ := List.mem_filterMap.1 member
  rcases List.mem_cons.1 isPart with rfl | isPart
  · simp [PagePart.command?] at commanded
  obtain ⟨use, isUse, isPart⟩ := List.mem_flatMap.1 isPart
  have isCommand : command ∈ PagePart.commands use.parts :=
    List.mem_filterMap.2 ⟨part, isPart, commanded⟩
  rw [commands_parts, List.mem_cons, List.mem_singleton] at isCommand
  rcases isCommand with rfl | rfl
  · intro idle
    have opens := (fits use isUse).opened defaults
    rw [idle.2] at opens
    simp at opens
  · exact fun idle => idle.1 ⟨rfl, rfl⟩

/-! ## A use in the registers -/

/-- The aside that a use comes to. -/
def span (before after : Text → Text) (use : AsideUse) : AsideSpan :=
  ⟨use.name, use.contribution before after⟩

theorem Fits.readsAs_span (fits : use.Fits template before after) :
    Text.ReadsAs AsideSpan.span?
      (asideBegin use.name ++ use.contribution before after ++ asideEnd)
      (use.span before after) := by
  obtain ⟨nonempty, noBlank, -⟩ := fits.named
  apply AsideSpan.readsAs_span nonempty noBlank
  have inert : Text.Inert (Text.dropLead? asideEnd) (use.contribution before after) := by
    rw [AsideSpan.asideEnd_eq]
    exact ((fits.openingFree.inert _).append (fits.contentFree.inert _)).append
      (fits.closingFree.inert _)
  exact inert.hasPart AsideSpan.asideEnd_ne_nil

theorem inert_span?_of_commentFree {text : Text} (free : text.CommentFree) :
    Text.Inert AsideSpan.span? text := by
  apply AsideSpan.inert_span?
  rw [AsideSpan.beginLead_eq]
  exact free.inert _

/-- Each use reads as one aside, and the text after it as plain characters. -/
theorem pieces_uses {uses : List AsideUse} (fits : ∀ use ∈ uses, use.Fits template before after) :
    Text.pieces AsideSpan.span? (uses.flatMap (shown before after)) =
      uses.flatMap fun use => .item (use.span before after) :: use.gap.map Piece.plain :=
  Text.pieces_row (fun use isUse => (fits use isUse).readsAs_span)
    fun use isUse => inert_span?_of_commentFree (fits use isUse).gapFree

theorem items_uses (before after : Text → Text) (uses : List AsideUse) :
    Piece.items (uses.flatMap fun use =>
      .item (use.span before after) :: use.gap.map Piece.plain) = uses.map (span before after) :=
  Piece.items_row (span before after) gap uses

/-- Asides under names other than that of the main region each bring their region. -/
theorem regions_spans {uses : List AsideUse} (notMain : ∀ use ∈ uses, use.name ≠ mainRegion) :
    AsideSpan.regions (uses.map (span before after)) = (uses.map name).eraseDups := by
  have kept : (uses.map (span before after)).filter (fun span => span.name ≠ mainRegion) =
      uses.map (span before after) := by
    rw [List.filter_eq_self]
    intro span member
    obtain ⟨use, isUse, rfl⟩ := List.mem_map.1 member
    exact decide_eq_true (notMain use isUse)
  rw [AsideSpan.regions, kept, List.map_map]
  rfl

/-- A comment stands in the main region for each use. -/
theorem expand_use (notMain : use.name ≠ mainRegion) :
    (Piece.item (use.span before after) :: use.gap.map Piece.plain).flatMap
      (Piece.expand AsideSpan.replacement) = "<!-- aside -->".toList ++ use.gap := by
  rw [List.flatMap_cons, Piece.flatMap_expand_map_plain, Piece.expand_item, span,
    AsideSpan.replacement, if_neg notMain]

theorem contentsOf_spans (name : Text) (uses : List AsideUse) :
    AsideSpan.contentsOf name (uses.map (span before after)) =
      (uses.filter fun use => use.name = name).flatMap (contribution before after) := by
  rw [AsideSpan.contentsOf, List.filter_map, List.flatMap_map]
  rfl

end AsideUse

open AsideUse in
/-- In a page in which only declared asides are used, every use opens and closes without a notice.
The registers are the main region and those of the used names in the order of their first use;
each holds what its uses contribute, and in the main region a comment stands for every use. The
first part of a declared body must not end with `@BODY`, or the body is cut too early. -/
theorem registers_of_asides (defaults : Defaults) {template : Text} {before after : Text → Text}
    (lead : Text) {uses : List AsideUse} (leadNoHeading : Text.hasPart "<h".toList lead = false)
    (leadFree : lead.CommentFree) (fits : ∀ use ∈ uses, use.Fits template before after)
    (unmarked : ∀ use ∈ uses, Text.hasPart bodyMark (before use.name) = false)
    (noOverlap : ∀ use ∈ uses, ¬ bodyMark.dropLast <:+ before use.name) :
    let tables := defaults.tables.declareAll (harvest template).declarations
    let outcome := carryOutCommands tables (lead ++ uses.flatMap source)
    let registers := routeRegions outcome.html
    outcome.notices = [] ∧
      registers.names = mainRegion :: (uses.map name).eraseDups ∧
      (∀ use ∈ uses, registers.find? use.name =
        some ((uses.filter fun other => other.name = use.name).flatMap
          (contribution before after))) ∧
      registers.find? mainRegion =
        some (lead ++ uses.flatMap fun use => "<!-- aside -->".toList ++ use.gap) := by
  intro tables outcome registers
  have first : ∀ use ∈ uses, Text.hasPart bodyMark (before use.name ++ bodyMark.dropLast) = false :=
    fun use isUse => hasPart_append_dropLast (unmarked use isUse) (noOverlap use isUse)
  have read : PagePart.IsReadAs (lead ++ uses.flatMap source) (page lead uses) :=
    isReadAs_page leadNoHeading leadFree fits
  have notMain : ∀ use ∈ uses, use.name ≠ mainRegion := fun use isUse =>
    (fits use isUse).named.2.2
  have html : outcome.html = lead ++ uses.flatMap (shown before after) := by
    simp only [outcome, tables, PagePart.html_carryOutCommands read, page,
      PagePart.emitted_plain_cons, emitted_uses fits first]
  have pieces : Text.pieces AsideSpan.span? outcome.html = lead.map Piece.plain ++
      uses.flatMap fun use => .item (use.span before after) :: use.gap.map Piece.plain := by
    rw [html, Text.pieces_append_of_inert (inert_span?_of_commentFree leadFree), pieces_uses fits]
  have spans : Text.items AsideSpan.span? outcome.html = uses.map (span before after) := by
    rw [Text.items, pieces, ← Piece.items, Piece.items_append, Piece.items_map_plain, items_uses]
    rfl
  refine ⟨?_, ?_, ?_, ?_⟩
  · exact PagePart.notices_carryOutCommands read (not_isIdle_of_mem_page fits defaults lead)
  · rw [names_routeRegions, spans, regions_spans notMain]
  · intro use isUse
    have isRegion : use.name ∈ AsideSpan.regions (Text.items AsideSpan.span? outcome.html) := by
      rw [spans, regions_spans notMain, List.mem_eraseDups]
      exact List.mem_map_of_mem isUse
    rw [find?_routeRegions isRegion, spans, contentsOf_spans]
  · rw [find?_routeRegions_main, Text.substitute, pieces, List.flatMap_append,
      Piece.flatMap_expand_map_plain, List.flatMap_assoc]
    congr 2
    exact List.flatMap_congr fun use isUse => expand_use (notMain use isUse)

/-- Two asides used in turn: each use is found again in the register of its name. -/
theorem registers_of_asides_in_turn :
    let template := ("<aside data-name='note' class='aside'><b>@ARGS@</b> @BODY@.</aside>" ++
      "<aside data-name='card' class='aside'>[@BODY@]</aside>").toList
    let uses : List AsideUse :=
      [⟨"note".toList, "x & y".toList, "one".toList, " mid ".toList⟩,
        ⟨"card".toList, [], "two".toList, []⟩,
        ⟨"note".toList, "z".toList, "three".toList, " end".toList⟩]
    let tables := Defaults.empty.tables.declareAll (harvest template).declarations
    let outcome := carryOutCommands tables ("Start ".toList ++ uses.flatMap AsideUse.source)
    let registers := routeRegions outcome.html
    outcome.notices = [] ∧
      registers.names = ["main".toList, "note".toList, "card".toList] ∧
      registers.find? "note".toList = some "<b>x &amp; y</b> one.<b>z</b> three.".toList ∧
      registers.find? "card".toList = some "[two]".toList ∧
      registers.find? "main".toList =
        some "Start <!-- aside --> mid <!-- aside --><!-- aside --> end".toList := by
  intro template uses tables outcome registers
  let before (name : Text) : Text := if name = "note".toList then "<b>@ARGS@</b> ".toList else ['[']
  let after (name : Text) : Text := if name = "note".toList then ['.'] else [']']
  have fits : ∀ use ∈ uses, use.Fits template before after := by decide +kernel
  obtain ⟨notices, names, contents, main⟩ :=
    registers_of_asides .empty "Start ".toList (by decide) (by decide) fits (by decide +kernel)
      (by decide +kernel)
  refine ⟨notices, names.trans (by decide), ?_, ?_, main.trans (by decide)⟩
  · exact (contents uses[0] (by simp [uses])).trans (by decide +kernel)
  · exact (contents uses[1] (by simp [uses])).trans (by decide +kernel)

/-- A first part that ends with a beginning of the body mark makes an earlier body mark together
with the mark after it, and the body is cut there. -/
theorem register_of_overlapping_mark :
    let template := "<aside data-name='a' class='aside'>@BODY@BODY@</aside>".toList
    let before (_ : Text) : Text := "@BODY".toList
    let after (_ : Text) : Text := []
    let use : AsideUse := ⟨"a".toList, [], "c".toList, []⟩
    let tables := Defaults.empty.tables.declareAll (harvest template).declarations
    use.Fits template before after ∧
      Text.hasPart bodyMark (before use.name) = false ∧
      use.contribution before after = "@BODYc".toList ∧
      (routeRegions (carryOutCommands tables use.source).html).find? use.name =
        some "cBODY@".toList := by
  decide +kernel

end Folio

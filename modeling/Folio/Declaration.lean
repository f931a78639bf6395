import Folio.Attribute
import Folio.Notice
import Folio.Table.Basic

/-!
# Declarations in a page template

A template declares bodies in `<aside>` blocks: the attributes give the name and the kind, the
content is the body. `harvest` cuts every block out of the template. A comment stands in for an
accepted block, and a notice for one that is rejected.
-/

namespace Folio

/-- What a declaration block defines. -/
inductive BlockKind where
  /-- A box, opened and closed by `~` headings. -/
  | box
  /-- A box whose content goes to the region of its name. -/
  | aside
  /-- A body for `@` headings that also records the argument of the heading. -/
  | setting
  /-- A template for menu entries. -/
  | menu
  /-- A body for `@` headings. -/
  | plain
deriving DecidableEq, Repr

namespace BlockKind

/-- The table that holds declarations of a kind. -/
def table : BlockKind → TableKind
  | .box => .boxes
  | .aside => .boxes
  | .setting => .settings
  | .menu => .menus
  | .plain => .macros

/-- The kind that a list of classes stands for: the first of four marks that occurs anywhere in
the list decides, and a list with none of them is a plain body. -/
def ofClasses (classes : Text) : BlockKind :=
  if Text.hasPart "box".toList classes then .box
  else if Text.hasPart "aside".toList classes then .aside
  else if Text.hasPart "setting".toList classes then .setting
  else if Text.hasPart "menu".toList classes then .menu
  else .plain

/-- The kind of a block with or without a list of classes. -/
def classify (classes : Option Text) : BlockKind :=
  classes.elim .plain ofClasses

end BlockKind

/-- The name of the region that holds everything outside asides. -/
def mainRegion : Text := "main".toList

/-- The mark at which the content of an aside begins. -/
def asideBegin (name : Text) : Text :=
  "<!-- BEGIN-ASIDE ".toList ++ name ++ " -->".toList

/-- The mark at which the content of an aside ends. -/
def asideEnd : Text := "<!-- END-ASIDE -->".toList

/-- An accepted declaration block. -/
structure Declaration where
  kind : BlockKind
  name : Text
  body : Text
deriving DecidableEq, Repr

namespace Declaration

/-- The declaration of a body; the body of an aside is set between the marks of its region. -/
def ofBody (kind : BlockKind) (name body : Text) : Declaration where
  kind
  name
  body := if kind = .aside then asideBegin name ++ body ++ asideEnd else body

/-- The comment that stands in the template for an accepted block. -/
def comment (declaration : Declaration) : Text :=
  "<!-- macro ".toList ++ declaration.name ++ " -->".toList

end Declaration

/-- A declaration block as it is written: the text of its attributes and its content. -/
structure DeclarationBlock where
  attributes : Text
  content : Text
deriving DecidableEq, Repr

namespace DeclarationBlock

/-- Recognises the opening tag of a block and gives the text of its attributes. At least two
characters stand between the tag's name and its end, and the first of them is whitespace. -/
def opening? (text : Text) : Option (Text × Text) := do
  let text ← Text.dropLead? "<aside".toList text
  match Text.run (fun c => !(c == '<' || c == '>')) text with
  | (first :: attributes, '>' :: after) =>
    if Unicode.isBlank first && !attributes.isEmpty then some (attributes, after) else none
  | _ => none

/-- Recognises a whole block: an opening tag and everything up to the first closing tag. -/
def block? (text : Text) : Option (DeclarationBlock × Text) := do
  let (attributes, after) ← opening? text
  let (content, after) ← Text.cutAt? "</aside>".toList after
  some (⟨attributes, content⟩, after)

/-- The name that attributes give: `data-name` counts before `id`, and an empty name is none. -/
def name? (attributes : List Attribute) : Option Text :=
  ((Attribute.lookup? "data-name".toList attributes).orElse fun _ =>
    Attribute.lookup? "id".toList attributes).filter fun name => !name.isEmpty

/-- Accepts or rejects a block. -/
def declaration (block : DeclarationBlock) : Except Notice Declaration :=
  let attributes := Attribute.list block.attributes
  match name? attributes with
  | none => .error .unnamedDeclaration
  | some name =>
    let kind := BlockKind.classify (Attribute.lookup? "class".toList attributes)
    if name.any Unicode.isBlank then .error (.blankInName name)
    else if kind = .aside ∧ name = mainRegion then .error .reservedAside
    else .ok (.ofBody kind name block.content)

/-- What stands in the template for a block. -/
def replacement (outcome : Except Notice Declaration) : Text :=
  match outcome with
  | .ok declaration => declaration.comment
  | .error notice => notice.fragment

end DeclarationBlock

/-- A template without its declaration blocks, and what the blocks declared. -/
structure Harvest where
  template : Text
  declarations : List Declaration
  notices : List Notice
deriving DecidableEq, Repr

/-- The outcomes of all blocks of a template, in order. -/
def blockOutcomes (template : Text) : List (Except Notice Declaration) :=
  (Text.items DeclarationBlock.block? template).map DeclarationBlock.declaration

/-- Cuts every declaration block out of a template. -/
def harvest (template : Text) : Harvest where
  template :=
    Text.substitute DeclarationBlock.block?
      (fun block => DeclarationBlock.replacement block.declaration) template
  declarations := (blockOutcomes template).filterMap fun
    | .ok declaration => some declaration
    | .error _ => none
  notices := (blockOutcomes template).filterMap fun
    | .ok _ => none
    | .error notice => some notice

/-- Declares what a template declares; of several declarations of one name the last counts. -/
def Tables.declareAll (tables : Tables) (declarations : List Declaration) : Tables :=
  declarations.foldl
    (fun tables declaration =>
      tables.declare declaration.kind.table declaration.name declaration.body)
    tables

end Folio

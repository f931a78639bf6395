import Folio.Command

/-!
# Regions of a page

The content of asides is taken out of the page and collected in registers, one for each region,
in the order in which the regions are first met. What is left is the main region, which comes
first. At the end each register is set into the container of its region.
-/

namespace Folio

/-- An aside in a page: the name of its region and its content. -/
structure AsideSpan where
  name : Text
  content : Text
deriving DecidableEq, Repr

namespace AsideSpan

/-- Recognises an aside, up to the first end mark after its begin mark. -/
def span? (text : Text) : Option (AsideSpan × Text) := do
  let text ← Text.dropLead? "<!-- BEGIN-ASIDE ".toList text
  match Text.run (fun c => !Unicode.isBlank c) text with
  | ([], _) => none
  | (name, text) =>
    let text ← Text.dropLead? " -->".toList text
    let (content, after) ← Text.cutAt? asideEnd text
    some (⟨name, content⟩, after)

/-- What stays in the main region for an aside: a comment, or the content of an aside that
belongs to the main region itself. -/
def replacement (span : AsideSpan) : Text :=
  if span.name = mainRegion then span.content else "<!-- aside -->".toList

end AsideSpan

/-- The content of each region, in order. -/
structure Registers where
  entries : List (Text × Text)
deriving DecidableEq, Repr

namespace Registers

/-- Registers with an empty main region. -/
def initial : Registers := ⟨[(mainRegion, [])]⟩

/-- Changes the content of a region; a region that is new comes last and starts out empty. -/
def modifyEntries (change : Text → Text) (name : Text) :
    List (Text × Text) → List (Text × Text)
  | [] => [(name, change [])]
  | (other, content) :: rest =>
    if other = name then (other, change content) :: rest
    else (other, content) :: modifyEntries change name rest

/-- Changes the content of a region. -/
def modify (change : Text → Text) (name : Text) (registers : Registers) : Registers :=
  ⟨modifyEntries change name registers.entries⟩

/-- Adds content at the end of a region. -/
def append (registers : Registers) (name content : Text) : Registers :=
  registers.modify (· ++ content) name

/-- Replaces the content of a region. -/
def set (registers : Registers) (name content : Text) : Registers :=
  registers.modify (fun _ => content) name

/-- The content of a region. -/
def find? (registers : Registers) (name : Text) : Option Text :=
  registers.entries.lookup name

/-- The regions in order. -/
def names (registers : Registers) : List Text :=
  registers.entries.map Prod.fst

/-- The name of the box that a region is set into. -/
def containerName (name : Text) : Text :=
  name ++ "-container".toList

/-- The content of a region in its container; without a container it stands alone. -/
def wrapEntry (boxes : Table) (entry : Text × Text) : Text :=
  Placeholder.fill (.ofList [("BODY".toList, entry.2)]) ["BODY".toList]
    ((boxes.find? (containerName entry.1)).getD bodyMark)

/-- All regions in their containers, one after another. -/
def wrap (boxes : Table) (registers : Registers) : Text :=
  registers.entries.flatMap (wrapEntry boxes)

/-- Collects the content of asides. -/
def collect (registers : Registers) (spans : List AsideSpan) : Registers :=
  spans.foldl
    (fun registers span =>
      if span.name = mainRegion then registers else registers.append span.name span.content)
    registers

end Registers

/-- Sorts the content of a page into its regions. -/
def routeRegions (html : Text) : Registers :=
  (Registers.initial.collect (Text.items AsideSpan.span? html)).set mainRegion
    (Text.substitute AsideSpan.span? AsideSpan.replacement html)

end Folio

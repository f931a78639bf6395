import Folio.Markdown.Prose

/-!
# Blocks

The blocks of a Markdown document. Running text is first kept as it is written. It is read when
all link definitions of the document are known, from the start of the document to its end.
-/

namespace Folio.Markdown

/-- What the items of a list are marked with. -/
inductive ListMark where
  /-- One of the signs `-`, `+` and `*`. -/
  | bullet (sign : Char)
  /-- A number that one of the signs `.` and `)` follows. -/
  | numbered (sign : Char) (start : Nat)
deriving DecidableEq, Repr

/-- Whether items with two marks belong to one list. -/
def ListMark.sameList : ListMark → ListMark → Bool
  | .bullet sign, .bullet other => sign == other
  | .numbered sign _, .numbered other _ => sign == other
  | _, _ => false

/-- How the cells of a table column are aligned. -/
inductive Alignment where
  | unset
  | left
  | center
  | right
deriving DecidableEq, Repr

/-- A block of a document, with running text of type `α` in it. -/
inductive Block (α : Type) where
  /-- A paragraph; the first one of a task starts with its checkbox. -/
  | paragraph (checkbox : Option Bool) (content : α)
  | heading (level : Nat) (checkbox : Option Bool) (content : α)
  /-- The checkbox of a task without text after it. -/
  | checkbox (isChecked : Bool)
  /-- Code, with the text after the fence for fenced code. -/
  | code (info : Option Text) (content : Text)
  | raw (content : Text)
  | rule
  | quote (blocks : List (Block α))
  /-- A list. Between the items of a loose list, or in one, there are blank lines. -/
  | list (mark : ListMark) (loose : Bool) (items : List (List (Block α)))
  | table (alignments : List Alignment) (head : List α) (rows : List (List α))
deriving Repr

namespace Block

variable {α β σ : Type}

mutual

/-- Reads the running text of a block from its start to its end. -/
def readContent (read : α → StateM σ β) : Block α → StateM σ (Block β)
  | .paragraph isChecked content => return .paragraph isChecked (← read content)
  | .heading level isChecked content => return .heading level isChecked (← read content)
  | .checkbox isChecked => return .checkbox isChecked
  | .code info content => return .code info content
  | .raw content => return .raw content
  | .rule => return .rule
  | .quote blocks => return .quote (← readContentAll read blocks)
  | .list mark loose items => return .list mark loose (← readContentItems read items)
  | .table alignments head rows =>
    return .table alignments (← head.mapM read) (← rows.mapM (·.mapM read))

/-- Reads the running text of blocks. -/
def readContentAll (read : α → StateM σ β) : List (Block α) → StateM σ (List (Block β))
  | [] => return []
  | first :: rest => return (← readContent read first) :: (← readContentAll read rest)

/-- Reads the running text of the items of a list. -/
def readContentItems (read : α → StateM σ β) : List (List (Block α)) → StateM σ (List (List (Block β)))
  | [] => return []
  | first :: rest => return (← readContentAll read first) :: (← readContentItems read rest)

end

end Block

end Folio.Markdown

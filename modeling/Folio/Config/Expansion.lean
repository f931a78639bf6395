import Folio.Text.Scan
import Folio.Unicode.Alphanumeric

/-!
# Variables in configuration values

A value may refer to variables. Inside braces stands a name, and perhaps a default after a colon
and a hyphen; without braces a name is a run of letters, digits and underscores. A doubled
dollar sign stands for one. The default counts where the variable is not set; it is taken as it
is written. A value without any braced reference is left alone altogether.
-/

namespace Folio.Config

/-- What a dollar sign in a value begins. -/
inductive Mark where
  /-- A doubled dollar sign. -/
  | dollar
  | reference (name : Text) (fallback : Option Text)
deriving DecidableEq, Repr

namespace Mark

/-- The start of a reference with braces. -/
def opening : Text := "$\x7b".toList

/-- The name and the default of what stands between braces. A name cannot be empty if a default
follows it. -/
def ofBraced (content : Text) : Mark :=
  match Text.cutAt? ":-".toList content with
  | some (c :: name, fallback) => .reference (c :: name) (some fallback)
  | _ => .reference content none

/-- Whether a character may stand in a name without braces. -/
def isNameChar (c : Char) : Bool :=
  Unicode.isAlphanumeric c || c == '_'

/-- Recognises a mark at the start of a text. A brace that is never closed opens nothing. -/
def recognise? : Text.Recogniser Mark
  | '$' :: '$' :: after => some (.dollar, after)
  | '$' :: '\x7b' :: after =>
    (Text.cutAt? ['\x7d'] after).map fun (content, after) => (ofBraced content, after)
  | '$' :: after =>
    match Text.run isNameChar after with
    | ([], _) => none
    | (name, after) => some (.reference name none, after)
  | _ => none

/-- The name of the variable that a mark refers to. -/
def name? : Mark → Option Text
  | .dollar => none
  | .reference name _ => some name

/-- What a mark stands for. The error is the name of a variable that is not set and has no
default. -/
def value (valueOf : Text → Option Text) : Mark → Except Text Text
  | .dollar => .ok ['$']
  | .reference name fallback =>
    match (valueOf name).orElse fun _ => fallback with
    | some value => .ok value
    | none => .error name

@[simp]
theorem value_dollar (valueOf : Text → Option Text) : value valueOf .dollar = .ok ['$'] :=
  rfl

end Mark

/-- Whether a value refers to variables at all. -/
def hasReferences (text : Text) : Bool :=
  Text.hasPart Mark.opening text

/-- The names of the variables that a value refers to, in order. -/
def variablesOf (text : Text) : List Text :=
  if hasReferences text then (Text.items Mark.recognise? text).filterMap Mark.name? else []

/-- The pieces of a value with every mark replaced by what it stands for. -/
def expandPieces (valueOf : Text → Option Text) : List (Piece Mark) → Except Text Text
  | [] => .ok []
  | .plain c :: pieces => (expandPieces valueOf pieces).map (c :: ·)
  | .item mark :: pieces => do
    let value ← mark.value valueOf
    let rest ← expandPieces valueOf pieces
    return value ++ rest

/-- A value with its variables replaced. The error is the name of the first one that is not set
and has no default. -/
def expand (valueOf : Text → Option Text) (text : Text) : Except Text Text :=
  if hasReferences text then expandPieces valueOf (Text.pieces Mark.recognise? text) else .ok text

/-- A value without references stays as it is. -/
theorem expand_of_not_hasReferences (valueOf : Text → Option Text) {text : Text}
    (free : hasReferences text = false) : expand valueOf text = .ok text := by
  simp [expand, free]

end Folio.Config

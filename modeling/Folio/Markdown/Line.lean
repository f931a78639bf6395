import Folio.Markdown.Character

/-!
# Lines of a document

A line of running text ends with a newline, a carriage return, or one after the other. Code and
raw markup are taken by lines that end with a newline only, so that a lone carriage return stays
where it is.
-/

namespace Folio.Markdown

/-- Whether a text is at the end of a line. -/
def endsLine : Text → Bool
  | [] => true
  | c :: _ => c == '\n' || c == '\r'

/-- The line ending at the start of a text, and what follows it; the end of the text ends a line
too. -/
def lineEnd? : Text → Option (Text × Text)
  | [] => some ([], [])
  | '\n' :: text => some (['\n'], text)
  | '\r' :: '\n' :: text => some (['\r', '\n'], text)
  | '\r' :: text => some (['\r'], text)
  | _ => none

/-- A line ending and what follows it are the text. -/
theorem lineEnd?_append {text ending rest : Text} (found : lineEnd? text = some (ending, rest)) :
    ending ++ rest = text := by
  unfold lineEnd? at found
  split at found <;> simp only [Option.some.injEq, Prod.mk.injEq, reduceCtorEq] at found <;>
    (obtain ⟨rfl, rfl⟩ := found; rfl)

/-- What follows a line of which only blanks are left. -/
def blankLine? (text : Text) : Option Text :=
  (lineEnd? (text.dropWhile isLineBlank)).map Prod.snd

/-- The content of the line at the start of a text, its ending and what follows it. -/
def cutLine (text : Text) : Text × Text × Text :=
  let (content, after) := Text.run (fun c => c != '\n' && c != '\r') text
  let (ending, rest) := (lineEnd? after).getD ([], after)
  (content, ending, rest)

/-- The parts of a line and what follows it are the text. -/
theorem cutLine_append (text : Text) :
    (cutLine text).1 ++ (cutLine text).2.1 ++ (cutLine text).2.2 = text := by
  have whole := Text.run_append (fun c => c != '\n' && c != '\r') text
  unfold cutLine
  simp only
  cases found : lineEnd? (Text.run (fun c => c != '\n' && c != '\r') text).2 with
  | none => simpa using whole
  | some parts =>
    obtain ⟨ending, rest⟩ := parts
    simpa [lineEnd?_append found] using whole

/-- What stands up to and including the next newline, and what follows it. -/
def cutAtNewline : Text → Text × Text
  | [] => ([], [])
  | c :: text =>
    if c = '\n' then (['\n'], text)
    else
      let (line, rest) := cutAtNewline text
      (c :: line, rest)

@[simp]
theorem cutAtNewline_nil : cutAtNewline [] = ([], []) :=
  rfl

/-- The two sides of a newline are the text. -/
theorem cutAtNewline_append (text : Text) :
    (cutAtNewline text).1 ++ (cutAtNewline text).2 = text := by
  induction text with
  | nil => rfl
  | cons c text inductionHypothesis =>
    by_cases newline : c = '\n'
    · simp [cutAtNewline, newline]
    · simpa [cutAtNewline, newline] using inductionHypothesis

/-- A line without the last but one of its characters if that is a carriage return, so that a
pair that ends the line becomes a newline. -/
def dropReturn (line : Text) : Text :=
  match line.reverse with
  | last :: '\r' :: before => (last :: before).reverse
  | _ => line

/-- What stands before the content of a line inside other blocks: a number of characters, given
the text from the start of the line on; nothing where the text before the line may not go on. -/
abbrev Margin := Text → Option Nat

/-- Takes the end of a line together with the margin of the next line: the line ending and what
follows the margin. -/
def cross? (margin : Margin) (text : Text) : Option (Text × Text) := do
  let (ending, after) ← lineEnd? text
  if ending.isEmpty then none
  let count ← margin after
  some (ending, after.drop count)

end Folio.Markdown

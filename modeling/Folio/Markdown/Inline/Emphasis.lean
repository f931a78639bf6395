import Folio.Markdown.Inline.Basic

/-!
# Emphasis and quotation marks

A run of asterisks, underscores or tildes may open emphasis, close it, or both. A closing run is
paired with the nearest run before it that can open the same sort of emphasis; what stands
between them becomes emphasized, and runs in between that found no partner are text. Tildes that
found no partner keep later tildes from looking any further back. Quotation marks become
typographic ones by what they may open and close.
-/

namespace Folio.Markdown

/-- A run of equal signs that may open or close emphasis. -/
structure Run where
  sign : Char
  /-- How many signs are not used up yet. -/
  left : Nat
  /-- How many signs the run has in the source. -/
  length : Nat
  canOpen : Bool
  canClose : Bool
  /-- Blanks that are shown with the last sign. -/
  tail : Text
deriving DecidableEq, Repr

/-- A part of running text in which emphasis and quotation marks are still to be settled. -/
inductive Node where
  | done (inline : Inline)
  /-- A line break that a backslash demands. -/
  | backslashBreak
  | run (run : Run)
  | mark (sign : Char) (canOpen canClose : Bool)
deriving Repr

namespace Run

/-- Whether a run can open what another one closes. Tildes need runs of one length; otherwise
lengths that add up to a multiple of three are refused where one of the runs can do both, unless
both are multiples of three. -/
def opensFor (opener closer : Run) : Bool :=
  opener.sign == closer.sign &&
    (opener.sign != '~' || opener.length == closer.length) &&
    (!(opener.canOpen && opener.canClose) && !(closer.canOpen && closer.canClose) ||
      (opener.length + closer.length) % 3 != 0 || closer.length % 3 == 0)

/-- What is left of a run as text. -/
def toText (run : Run) : List Inline :=
  if run.left = 0 then [] else [.text (List.replicate run.left run.sign ++ run.tail)]

end Run

/-- Emphasis of a sign by so many signs on each side: pairs stand inside a single sign. -/
def emphasize (sign : Char) : (signs : Nat) → List Inline → List Inline
  | 0, children => children
  | 1, children => [.emphasis (if sign = '~' then .struck else .light) children]
  | signs + 2, children =>
    emphasize sign signs [.emphasis (if sign = '~' then .struck else .strong) children]

/-- A run that may open emphasis with what has been read since, latest first. -/
structure OpenRun where
  run : Run
  since : List Inline
deriving Repr

/-- What has been read at one level: parts before any open run, and the open runs, both latest
first. -/
structure Pending where
  before : List Inline
  runs : List OpenRun
  /-- How many of the open runs, from the first on, tildes do not look at. -/
  floor : Nat
deriving Repr

namespace Pending

/-- Adds parts, given latest first, at the end. -/
def add (parts : List Inline) (pending : Pending) : Pending :=
  match pending.runs with
  | [] => { pending with before := parts ++ pending.before }
  | opener :: rest =>
    { pending with runs := { opener with since := parts ++ opener.since } :: rest }

/-- Everything since the latest of the first `visible` open runs that fits a closing run, with
the runs in between as text, latest first; and that run with the ones before it. -/
def matching? (closer : Run) :
    (visible : Nat) → List OpenRun → Option (List Inline × Run × List OpenRun)
  | 0, _ => none
  | _, [] => none
  | visible + 1, opener :: rest =>
    if opener.run.opensFor closer then some (opener.since, opener.run, rest)
    else
      (matching? closer visible rest).map fun (inner, run, below) =>
        (opener.since ++ opener.run.toText ++ inner, run, below)

/-- The open run that fits a closing one. -/
def partner? (closer : Run) (pending : Pending) : Option (List Inline × Run × List OpenRun) :=
  let floor := if closer.sign = '~' then pending.floor else 0
  matching? closer (pending.runs.length - floor) pending.runs

/-- Puts an open run back if signs of it are left, and what it has been used for after it. -/
def reopen (run : Run) (parts : List Inline) (below : List OpenRun) (pending : Pending) :
    Pending :=
  let pending := { pending with runs := below, floor := min pending.floor below.length }
  if run.left = 0 then pending.add parts else { pending with runs := ⟨run, parts⟩ :: below }

/-- Notes that a closing run has found no partner. -/
def miss (closer : Run) (pending : Pending) : Pending :=
  if closer.sign = '~' then { pending with floor := pending.runs.length } else pending

/-- Closes emphasis with a run as often as there is an open run for it, at most `fuel` times,
and gives what is left of the closing run. -/
def close : (fuel : Nat) → Run → Pending → Run × Pending
  | 0, closer, pending => (closer, pending)
  | fuel + 1, closer, pending =>
    if closer.left = 0 then (closer, pending)
    else
      match pending.partner? closer with
      | none => (closer, pending.miss closer)
      | some (inner, opener, below) =>
        let signs := min closer.left opener.left
        close fuel { closer with left := closer.left - signs }
          (pending.reopen { opener with left := opener.left - signs }
            (emphasize closer.sign signs inner.reverse) below)

/-- Reads the next run. -/
def addRun (run : Run) (pending : Pending) : Pending :=
  let (run, pending) := if run.canClose then close run.left run pending else (run, pending)
  if run.left = 0 then pending
  else if run.canOpen then { pending with runs := ⟨run, []⟩ :: pending.runs }
  else pending.add run.toText

/-- Everything that has been read, with the open runs as text. -/
def finish (pending : Pending) : List Inline :=
  (pending.runs.foldr
    (fun opener before => opener.since ++ opener.run.toText ++ before) pending.before).reverse

end Pending

/-- Whether the next single quotation mark that counts closes a quotation. -/
def closesNext : List Node → Bool
  | [] => false
  | .mark '\'' canOpen canClose :: rest =>
    if canClose then true else if canOpen then false else closesNext rest
  | _ :: rest => closesNext rest

/-- Settles the quotation marks, given whether a single and a double quotation are open. -/
def settleMarks (single double : Bool) : List Node → List Node
  | [] => []
  | .mark '\'' canOpen canClose :: rest =>
    if single && canClose then .done (.text ['’']) :: settleMarks false double rest
    else if canOpen then
      .done (.text [if closesNext rest then '‘' else '’']) :: settleMarks true double rest
    else .done (.text ['’']) :: settleMarks single double rest
  | .mark _ canOpen canClose :: rest =>
    if double && canClose then .done (.text ['”']) :: settleMarks single false rest
    else .done (.text ['“']) :: settleMarks single (double || canOpen) rest
  | node :: rest => node :: settleMarks single double rest

/-- Settles the emphasis among parts that follow what is pending. -/
def settleRuns (pending : Pending) : List Node → Pending
  | [] => pending
  | .done inline :: rest => settleRuns (pending.add [inline]) rest
  | .backslashBreak :: rest => settleRuns (pending.add [.hardBreak]) rest
  | .run run :: rest => settleRuns (pending.addRun run) rest
  | .mark sign _ _ :: rest => settleRuns (pending.add [.text [sign]]) rest

/-- Settles the emphasis and the quotation marks of one level of running text. -/
def settle (nodes : List Node) : List Inline :=
  (settleRuns ⟨[], [], 0⟩ (settleMarks false false nodes)).finish

/-- Whether a part is still to be settled. -/
def Node.isOpen : Node → Bool
  | .run _ => true
  | .mark _ _ _ => true
  | _ => false

/-- Settles the text of a link. A backslash at its end breaks the line only if there was nothing
else to settle. -/
def settleLink (nodes : List Node) : List Inline :=
  match nodes.getLast? with
  | some .backslashBreak =>
    if nodes.any Node.isOpen then settle (nodes.dropLast ++ [.done (.text ['\\'])])
    else settle nodes
  | _ => settle nodes

end Folio.Markdown

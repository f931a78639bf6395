import Folio.Value

/-!
# Tables under construction

While a configuration file is read it matters how a table came about. A table that was named by
a heading may not be named again, and one that was built by dotted keys gets values by dotted
keys alone; a table that was only passed through may still be named. Nothing that has a value is
given another one.
-/

namespace Folio.Toml

/-- How a table came about. -/
inductive Origin where
  /-- By a heading of its own. -/
  | headed
  /-- On the way to the table of a heading. -/
  | passed
  /-- By a dotted key. -/
  | dotted
deriving DecidableEq, Repr

/-- A value, a table, or a list of tables with the latest first. -/
inductive Node where
  | plain (value : Value)
  | table (origin : Origin) (entries : List (Text × Node))
  | tables (elements : List (List (Text × Node)))
deriving Repr

/-- The entries of a table. -/
abbrev Entries := List (Text × Node)

namespace Node

mutual

/-- The finished value of a node. -/
def toValue : Node → Value
  | .plain value => value
  | .table _ entries => .table (entriesToValues entries)
  | .tables elements => .list (elementsToValues elements).reverse

/-- The finished values of entries. -/
def entriesToValues : List (Text × Node) → List (Text × Value)
  | [] => []
  | (key, node) :: rest => (key, node.toValue) :: entriesToValues rest

/-- The finished values of the elements of a list of tables, in the order in which they are
kept. -/
def elementsToValues : List (List (Text × Node)) → List Value
  | [] => []
  | entries :: rest => .table (entriesToValues entries) :: elementsToValues rest

end

end Node

namespace Entries

/-- Replaces the node of a key that is there. -/
def replace (key : Text) (node : Node) (entries : Entries) : Entries :=
  entries.map fun (other, old) => if other = key then (other, node) else (other, old)

/-- Gives a value to a key of one or more parts. On the way to the last part a key may go through
the latest element of a list of tables and through tables that a heading has passed, but the
table that gets the value is one that dotted keys have built. -/
def assign (value : Value) : (key : List Text) → Entries → Option Entries
  | [], _ => none
  | [key], entries =>
    match entries.lookup key with
    | none => some (entries ++ [(key, .plain value)])
    | some _ => none
  | key :: rest, entries =>
    match entries.lookup key with
    | none => do
      let inner ← assign value rest []
      some (entries ++ [(key, .table .dotted inner)])
    | some (.table .dotted inner) => do
      let inner ← assign value rest inner
      some (replace key (.table .dotted inner) entries)
    | some (.table .passed inner) =>
      if rest.length = 1 then none
      else do
        let inner ← assign value rest inner
        some (replace key (.table .passed inner) entries)
    | some (.tables (inner :: earlier)) =>
      if rest.length = 1 then none
      else do
        let inner ← assign value rest inner
        some (replace key (.tables (inner :: earlier)) entries)
    | some _ => none

/-- Changes the table that a heading leads to: `last` gives the new node of its last part. -/
def changeAt (last : Option Node → Option Node) :
    (heading : List Text) → Entries → Option Entries
  | [], _ => none
  | [key], entries => do
    let node ← last (entries.lookup key)
    match entries.lookup key with
    | none => some (entries ++ [(key, node)])
    | some _ => some (replace key node entries)
  | key :: rest, entries =>
    match entries.lookup key with
    | none => do
      let inner ← changeAt last rest []
      some (entries ++ [(key, .table .passed inner)])
    | some (.table origin inner) => do
      let inner ← changeAt last rest inner
      some (replace key (.table origin inner) entries)
    | some (.tables (inner :: earlier)) => do
      let inner ← changeAt last rest inner
      some (replace key (.tables (inner :: earlier)) entries)
    | some _ => none

/-- Starts the table of a heading. -/
def startTable : (heading : List Text) → Entries → Option Entries :=
  changeAt fun
    | none => some (.table .headed [])
    | some (.table .passed inner) => some (.table .headed inner)
    | some _ => none

/-- Starts an element of the list of tables of a heading. -/
def startElement : (heading : List Text) → Entries → Option Entries :=
  changeAt fun
    | none => some (.tables [[]])
    | some (.tables elements) => some (.tables ([] :: elements))
    | some _ => none

/-- Gives a value to a key in the table of a heading; without a heading, in the outermost
table. -/
def assignIn (heading key : List Text) (value : Value) (entries : Entries) : Option Entries :=
  if heading.isEmpty then assign value key entries
  else
    changeAt
      (fun
        | some (.table origin inner) => (assign value key inner).map (.table origin)
        | some (.tables (inner :: earlier)) =>
          (assign value key inner).map fun inner => .tables (inner :: earlier)
        | _ => none)
      heading entries

end Entries

end Folio.Toml

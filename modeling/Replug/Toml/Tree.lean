import Replug.Toml.Grammar

/-!
# Documents as tables

What a document says once its entries and headers are put together: a table of tables, arrays and
scalars.  A document that says something twice, or adds to what is complete, has no tree.

* A key is given a value once.
* A table under a header of its own is opened once, and keys with points do not reach into it.
* A table that only a longer header or a key with points implied may still be added to, by the
  same kind of words; a header of its own completes it and moves it behind its neighbours.
* Inline tables and arrays are complete as they stand.
-/

set_option autoImplicit false

namespace Replug.Toml

inductive Origin where
  | header
  | implied
  | dotted
  | inline
  deriving DecidableEq, Repr

inductive Node where
  | leaf (span : Span) (value : Scalar)
  | list (span : Span) (items : List Node)
  /-- Tables under headers for items, in the order of the headers; they stand from the first of
  them to the last. -/
  | tables (span : Span) (items : List Node)
  | table (span : Span) (origin : Origin) (entries : List (String × Node))

/-- The entries of a table, in the order in which they were first given. -/
abbrev Entries := List (String × Node)

namespace Node

def span : Node → Span
  | .leaf span _ => span
  | .list span _ => span
  | .tables span _ => span
  | .table span _ _ => span

end Node

namespace Entries

def find? (es : Entries) (name : String) : Option Node := es.lookup name

def append (es : Entries) (name : String) (node : Node) : Entries := es ++ [(name, node)]

def replace (es : Entries) (name : String) (node : Node) : Entries :=
  es.map fun e => if e.1 = name then (name, node) else e

def erase (es : Entries) (name : String) : Entries := es.filter fun e => e.1 ≠ name

end Entries

/-- By which words a table is reached. -/
inductive Reach where
  | byHeader
  | byPoints
  deriving DecidableEq, Repr

namespace Reach

/-- How a table comes to be that is not there when it is reached. -/
def origin : Reach → Origin
  | .byHeader => .implied
  | .byPoints => .dotted

def passes : Reach → Origin → Bool
  | .byHeader, o => o ≠ .inline
  | .byPoints, o => o = .implied || o = .dotted

end Reach

/-- A change made to the table at the end of a path, which is told how that table came to be. -/
def changeAt (reach : Reach) (change : Origin → Entries → Option Entries) :
    List Key → Origin → Entries → Option Entries
  | [], origin, es => change origin es
  | key :: path, _, es =>
    match es.find? key.name with
    | none => do
      let inner ← changeAt reach change path reach.origin []
      some (es.append key.name (.table key.span reach.origin inner))
    | some (.table span origin inner) =>
      if reach.passes origin then do
        let inner ← changeAt reach change path origin inner
        some (es.replace key.name (.table span origin inner))
      else none
    | some (.tables span items) =>
      match items.getLast? with
      | some (.table last origin inner) => do
        let inner ← changeAt reach change path origin inner
        some (es.replace key.name (.tables span (items.dropLast ++ [.table last origin inner])))
      | _ => none
    | some (.leaf _ _) | some (.list _ _) => none

def splitLast? : List Key → Option (List Key × Key)
  | [] => none
  | [key] => some ([], key)
  | key :: path => (splitLast? path).map fun (front, last) => (key :: front, last)

/-- The entries with one more, whose key may have points.  The table that gets it must have come to
be in the same way if the key has points, and must not if it has none. -/
def addEntry (path : List Key) (node : Node) (origin : Origin) (es : Entries) :
    Option Entries := do
  let (front, last) ← splitLast? path
  let add (origin : Origin) (es : Entries) : Option Entries :=
    if (origin == .dotted) == front.isEmpty then none
    else match es.find? last.name with
      | some _ => none
      | none => some (es.append last.name node)
  changeAt .byPoints add front origin es

mutual

def Value.toNode : Value → Option Node
  | .scalar span s => some (.leaf span s)
  | .array span items => (itemNodes items).map (.list span)
  | .inlineTable span entries => (entryNodes entries []).map (.table span .inline)

def itemNodes : List Value → Option (List Node)
  | [] => some []
  | v :: vs => do
    let node ← v.toNode
    let nodes ← itemNodes vs
    some (node :: nodes)

def entryNodes : List (List Key × Value) → Entries → Option Entries
  | [], es => some es
  | (path, v) :: rest, es => do
    let node ← v.toNode
    let es ← addEntry path node .inline es
    entryNodes rest es

end

def addEntries (origin : Origin) : List Entry → Entries → Option Entries
  | [], es => some es
  | (path, v) :: rest, es => do
    let node ← v.toNode
    let es ← addEntry path node origin es
    addEntries origin rest es

def Section.placeIn (s : Section) (last : Key) (es : Entries) : Option Entries :=
  match s.isItem, es.find? last.name with
  | false, none => do
    let inner ← addEntries .header s.entries []
    some (es.append last.name (.table s.stretch .header inner))
  | false, some (.table _ .implied inner) => do
    let inner ← addEntries .header s.entries inner
    some ((es.erase last.name).append last.name (.table s.stretch .header inner))
  | true, none => do
    let inner ← addEntries .header s.entries []
    some (es.append last.name (.tables s.stretch [.table s.stretch .header inner]))
  | true, some (.tables span items) => do
    let inner ← addEntries .header s.entries []
    let item := .table s.stretch .header inner
    some (es.replace last.name (.tables ⟨span.before, s.stretch.after⟩ (items ++ [item])))
  | _, _ => none

def Section.place (es : Entries) (s : Section) : Option Entries := do
  let (front, last) ← splitLast? s.path
  changeAt .byHeader (fun _ => s.placeIn last) front .header es

def Document.tree? (d : Document) : Option Entries := do
  let es ← addEntries .header d.top []
  d.sections.foldlM Section.place es

/-- The root table that a text spells.  Nothing comes of a text that is no document. -/
def parse? (text : String) : Option Entries := do
  let d ← document? (withoutMark text.toList)
  d.tree?

end Replug.Toml

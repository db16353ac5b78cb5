import Replug.Toml.Moment

/-!
# Documents as they are written

A document is a list of entries under headers.  This module reads it as such: which key was given
which value, and where each of them stands.  Whether the entries agree with each other is the
business of `Replug.Toml.Tree`.

A place is told by how many characters of the document are left from there, so a span needs no
knowledge of what came before it.
-/

set_option autoImplicit false

namespace Replug.Toml

/-- A stretch of the document, from where so many characters are left to where fewer are. -/
structure Span where
  before : Nat
  after : Nat
  deriving DecidableEq, Repr

def spanned {α : Type} (read : Reader α) : Reader (Span × α) := fun cs =>
  (read cs).map fun (a, rest) => ((⟨cs.length, rest.length⟩, a), rest)

structure Key where
  name : String
  span : Span
  deriving DecidableEq, Repr

inductive Scalar where
  | text (s : String)
  | integer (n : Int)
  | fraction (x : Binary64)
  | boolean (b : Bool)
  /-- A date, a time, or both; what it says is not kept. -/
  | moment
  deriving DecidableEq, Repr

inductive Value where
  | scalar (span : Span) (value : Scalar)
  | array (span : Span) (items : List Value)
  | inlineTable (span : Span) (entries : List (List Key × Value))

def Value.span : Value → Span
  | .scalar span _ => span
  | .array span _ => span
  | .inlineTable span _ => span

abbrev Entry := List Key × Value

structure Section where
  path : List Key
  /-- Where the header stands. -/
  span : Span
  /-- Whether the header adds one more table to an array of tables. -/
  isItem : Bool
  entries : List Entry

/-- Where a section stands: from its header to its last value. -/
def Section.stretch (s : Section) : Span :=
  match s.entries.getLast? with
  | some (_, last) => ⟨s.span.before, last.span.after⟩
  | none => s.span

structure Document where
  top : List Entry
  sections : List Section

/-- The number of names from which a key is refused. -/
def longestPath : Nat := 80

def deepestNesting : Nat := 79

def skipBlanks (cs : List Char) : List Char := cs.dropWhile isBlank

/-- The characters after blanks, comments and line ends, as between the items of an array. -/
def skipLines : Nat → List Char → List Char
  | 0, cs => cs
  | fuel + 1, cs =>
    match skipBlanks cs with
    | '#' :: rest => skipLines fuel (rest.dropWhile isCommentChar)
    | cs =>
      match newline? cs with
      | some rest => skipLines fuel rest
      | none => cs

def lineEnd? (cs : List Char) : Option (List Char) :=
  let cs := match skipBlanks cs with
    | '#' :: rest => rest.dropWhile isCommentChar
    | cs => cs
  match cs with
  | [] => some []
  | cs => newline? cs

def isBareKeyChar (c : Char) : Bool :=
  isDigit c || ('a' ≤ c && c ≤ 'z') || ('A' ≤ c && c ≤ 'Z') || c = '_' || c = '-'

def keyName : Reader String := fun cs =>
  match shortQuoted cs with
  | some read => some read
  | none =>
    match cs.takeWhile isBareKeyChar with
    | [] => none
    | name => some (String.ofList name, cs.dropWhile isBareKeyChar)

def keyNames : Nat → Reader (List Key)
  | 0, _ => none
  | fuel + 1, cs => do
    let ((span, name), rest) ← spanned keyName (skipBlanks cs)
    let key : Key := ⟨name, span⟩
    match skipBlanks rest with
    | '.' :: rest =>
      let (keys, rest) ← keyNames fuel rest
      some (key :: keys, rest)
    | rest => some ([key], rest)

def keyPath : Reader (List Key) := keyNames (longestPath - 1)

def wordValue? : Reader Scalar
  | 't' :: 'r' :: 'u' :: 'e' :: rest => some (.boolean true, rest)
  | 'f' :: 'a' :: 'l' :: 's' :: 'e' :: rest => some (.boolean false, rest)
  | cs => (spelledOut cs).map fun (x, rest) => (.fraction x, rest)

def numeric : Reader Scalar := fun cs =>
  match moment cs with
  | some rest => some (.moment, rest)
  | none =>
    match fractional cs with
    | some (x, rest) => some (.fraction x, rest)
    | none => (integer cs).map fun (n, rest) => (.integer n, rest)

def scalar : Reader Scalar := fun cs =>
  match quoted cs with
  | some (s, rest) => some (.text s, rest)
  | none =>
    match wordValue? cs with
    | some read => some read
    | none => numeric cs

/-- The items of an array after its opening bracket, up to its closing one.  A comma may follow the
last item. -/
def arrayItems (item : Reader Value) : Nat → Reader (List Value)
  | 0, _ => none
  | fuel + 1, cs =>
    match skipLines cs.length cs with
    | ']' :: rest => some ([], rest)
    | cs => do
      let (value, rest) ← item cs
      match skipLines rest.length rest with
      | ',' :: rest =>
        let (items, rest) ← arrayItems item fuel rest
        some (value :: items, rest)
      | ']' :: rest => some ([value], rest)
      | _ => none

def entry (item : Reader Value) : Reader Entry := fun cs => do
  let (path, rest) ← keyPath cs
  match skipBlanks rest with
  | '=' :: rest =>
    let (value, rest) ← item (skipBlanks rest)
    some ((path, value), rest)
  | _ => none

def inlineEntries (item : Reader Value) : Nat → Reader (List Entry)
  | 0, _ => none
  | fuel + 1, cs => do
    let (first, rest) ← entry item cs
    match skipBlanks rest with
    | ',' :: rest =>
      let (entries, rest) ← inlineEntries item fuel rest
      some (first :: entries, rest)
    | '\x7d' :: rest => some ([first], rest)
    | _ => none

def value : Nat → Reader Value
  | 0, cs => (spanned scalar cs).map fun ((span, s), rest) => (.scalar span s, rest)
  | depth + 1, cs =>
    match cs with
    | '[' :: rest => do
      let (items, after) ← arrayItems (value depth) rest.length rest
      some (.array ⟨cs.length, after.length⟩ items, after)
    | '\x7b' :: rest =>
      match skipBlanks rest with
      | '\x7d' :: after => some (.inlineTable ⟨cs.length, after.length⟩ [], after)
      | _ => do
        let (entries, after) ← inlineEntries (value depth) rest.length rest
        some (.inlineTable ⟨cs.length, after.length⟩ entries, after)
    | _ => (spanned scalar cs).map fun ((span, s), rest) => (.scalar span s, rest)

/-- The names of a header, whether it is one for an item, and the rest after its brackets. -/
def header : Reader (List Key × Bool)
  | '[' :: '[' :: rest => do
    let (path, rest) ← keyPath rest
    match rest with
    | ']' :: ']' :: rest => some ((path, true), rest)
    | _ => none
  | '[' :: rest => do
    let (path, rest) ← keyPath rest
    match rest with
    | ']' :: rest => some ((path, false), rest)
    | _ => none
  | _ => none

def Document.withEntry (e : Entry) (d : Document) : Document := { d with top := e :: d.top }

def Document.under (span : Span) (path : List Key) (isItem : Bool) (d : Document) : Document :=
  ⟨[], ⟨path, span, isItem, d.top⟩ :: d.sections⟩

def documentLines : Nat → List Char → Option Document
  | 0, _ => none
  | fuel + 1, cs =>
    match skipBlanks cs with
    | [] => some ⟨[], []⟩
    | '#' :: rest => do documentLines fuel (← lineEnd? ('#' :: rest))
    | '[' :: rest => do
      let ((span, path, isItem), rest) ← spanned header ('[' :: rest)
      (← documentLines fuel (← lineEnd? rest)).under span path isItem
    | cs =>
      match newline? cs with
      | some rest => documentLines fuel rest
      | none => do
        let (e, rest) ← entry (value deepestNesting) cs
        (← documentLines fuel (← lineEnd? rest)).withEntry e

/-- The characters of a document without the mark that may announce its encoding. -/
def withoutMark : List Char → List Char
  | '\uFEFF' :: rest => rest
  | cs => cs

def document? (cs : List Char) : Option Document := documentLines (cs.length + 1) cs

end Replug.Toml

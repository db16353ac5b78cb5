import Replug.Settings
import Replug.Text.Quoted
import Replug.Toml.Place
import Replug.Toml.Tree

/-!
# Settings in a document

A document gives settings in two sections, `general` and `usbip`, and what it does not give keeps
the value it had.  Keys that mean nothing here are passed over.  A section may also be an array of
its values in order; a date in the place of a section counts as an empty one.

`Settings.ofToml` reads a document, lets the client's path begin at the home directory if it says
so, and refuses what no run could use.
-/

set_option autoImplicit false

namespace Replug.Settings

open Toml (Node Entries Scalar Span)

inductive Expected where
  | text
  | path
  | count
  | general
  | usbip
  deriving DecidableEq, Repr

def Expected.message : Expected → String
  | .text => "a string"
  | .path => "path string"
  | .count => "u64"
  | .general => "struct GeneralSettings"
  | .usbip => "struct UsbipSettings"

structure Mismatch where
  found : Node
  expected : Expected

/-- How a message names a value without parts. -/
def scalarKind : Scalar → String
  | .text s => "string " ++ Text.inQuotes s
  | .integer n => "integer `" ++ toString n ++ "`"
  | .fraction x => "floating point `" ++ x.text ++ "`"
  | .boolean b => "boolean `" ++ toString b ++ "`"
  | .moment => "map"

def nodeKind : Node → String
  | .leaf _ s => scalarKind s
  | .list _ _ | .tables _ _ => "sequence"
  | .table _ _ _ => "map"

/-- What is wrong with a value.  Where a count is expected, a negative whole number is of the right
kind, but out of range. -/
def Mismatch.complaint (m : Mismatch) : String :=
  let fault := match m.found, m.expected with
    | .leaf _ (.integer _), .count => "invalid value: "
    | _, _ => "invalid type: "
  fault ++ nodeKind m.found ++ ", expected " ++ m.expected.message

def text (node : Node) : Except Mismatch String :=
  match node with
  | .leaf _ (.text s) => .ok s
  | _ => .error ⟨node, .text⟩

def path (node : Node) : Except Mismatch Path :=
  match node with
  | .leaf _ (.text s) => .ok (Path.ofString s)
  | _ => .error ⟨node, .path⟩

def word (node : Node) : Except Mismatch UInt64 :=
  match node with
  | .leaf _ (.integer (.ofNat n)) => .ok (.ofNat n)
  | _ => .error ⟨node, .count⟩

/-- A setting that a document can give: its key, and how its value changes the settings. -/
abbrev Field := String × (Node → Settings → Except Mismatch Settings)

/-- The settings of the general section, in the order of its array form. -/
def generalFields : List Field := [
  ("log_level", fun node s => do return { s with logLevel := ← text node })]

def usbipFields : List Field := [
  ("program", fun node s => do return { s with program := ← path node }),
  ("max_delay", fun node s => do return { s with maxDelay := ← word node }),
  ("count", fun node s => do return { s with count := ← word node })]

/-- The settings changed by the entries of a table, one after the other. -/
def applyEntries (fields : List Field) : Entries → Settings → Except Mismatch Settings
  | [], s => .ok s
  | (name, node) :: rest, s =>
    match fields.lookup name with
    | none => applyEntries fields rest s
    | some change => do applyEntries fields rest (← change node s)

/-- The settings changed by the items of an array, which stand for the fields in their order. -/
def applyItems : List Field → List Node → Settings → Except Mismatch Settings
  | (_, change) :: fields, node :: nodes, s => do applyItems fields nodes (← change node s)
  | _, _, s => .ok s

def applySection (fields : List Field) (expected : Expected) (node : Node) (s : Settings) :
    Except Mismatch Settings :=
  match node with
  | .table _ _ entries => applyEntries fields entries s
  | .leaf _ .moment => .ok s
  | .list _ items | .tables _ items => applyItems fields items s
  | .leaf _ _ => .error ⟨node, expected⟩

def sections : List Field := [
  ("general", applySection generalFields .general),
  ("usbip", applySection usbipFields .usbip)]

def ofTable (root : Entries) : Except Mismatch Settings :=
  applyEntries sections root default

inductive Unreadable where
  | syntaxFault
  /-- A value in it is of the wrong kind; the text is kept to show the place. -/
  | mismatch (m : Mismatch) (document : List Char)
  | flaw (f : Flaw)

def Unreadable.message : Unreadable → String
  | .syntaxFault => "TOML parse error\n"
  | .mismatch m document => (m.found.span.place document).complaint m.complaint
  | .flaw f => f.message

def expanded (home : Bytes) (s : Settings) : Settings :=
  { s with program := s.program.expandHome home }

def checked (s : Settings) : Except Unreadable Settings :=
  match s.flaw? with
  | some f => .error (.flaw f)
  | none => .ok s

def ofToml (home : Bytes) (content : String) : Except Unreadable Settings :=
  match Toml.parse? content with
  | none => .error .syntaxFault
  | some root =>
    match ofTable root with
    | .error m => .error (.mismatch m content.toList)
    | .ok s => (s.expanded home).checked

end Replug.Settings

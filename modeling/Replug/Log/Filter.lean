import Replug.Log.Record
import Replug.Text.Alphanumeric
import Replug.Text.Blank
import Replug.Text.Number

/-!
# Log filters

Which records are shown.  A filter is written as directives between commas: a level for all
records, a target for everything of some part of the program, or both with an equals sign between.
A target may be followed, or replaced, by brackets that name a span of work, and inside them by
braces that name a field, perhaps with a value for it, which is a pattern.

A target covers all targets that start with it, and a field all records that have it.  Of the
directives that cover a record the one with the longest target decides, and of those with the same
target one that names a field.  The program opens no spans, so a directive that names one, or the
value of a field, covers no record.  Without any directive only errors are shown.
-/

set_option autoImplicit false

namespace Replug.Log

inductive Threshold where
  | off
  | upTo (level : Level)
  deriving DecidableEq, Repr

def Threshold.admits : Threshold → Level → Bool
  | .off, _ => false
  | .upTo most, level => level.rank ≤ most.rank

structure FieldDemand where
  name : List Char
  /-- The value that it must have, if one is named as well. -/
  value : Option (List Char)
  deriving DecidableEq, Repr

/-- A directive: a threshold for the targets that start in some way, or for all; for a span of work
of some name, if it names one; and for what has a field, if it names one. -/
structure Directive where
  target : Option (List Char)
  span : Option (List Char)
  field : Option FieldDemand
  threshold : Threshold
  deriving DecidableEq, Repr

structure Filter where
  directives : List Directive
  deriving DecidableEq, Repr

inductive FilterFault where
  | directive
  | level
  /-- The value of a field is refused. -/
  | field (why : String)
  /-- A part would have to be cut out inside a character, which the reader does not survive. -/
  | uncut
  deriving DecidableEq, Repr

def FilterFault.message : FilterFault → String
  | .directive => "invalid filter directive"
  | .level =>
    "error parsing level filter: expected one of \"off\", \"error\", \"warn\", \"info\", " ++
      "\"debug\", \"trace\", or a number 0-5"
  | .field why => "invalid field filter: " ++ why
  | .uncut => "byte index is not a char boundary"

/-- What the reader of patterns has against a text as the value of a field, if anything. -/
abbrev Patterns := String → Option String

def Threshold.ofNumber? : Nat → Option Threshold
  | 0 => some .off
  | n + 1 => (Level.all[n]?).map .upTo

def Threshold.ofWord? (word : List Char) : Option Threshold :=
  let lower := word.map Char.toLower
  if lower = ['o', 'f', 'f'] then some .off
  else (Level.all.find? fun l => l.name.toList.map Char.toLower = lower).map .upTo

def Threshold.parse? (text : List Char) : Option Threshold :=
  match Text.number text with
  | .ok n =>
    match ofNumber? n with
    | some t => some t
    | none => none
  | .error _ => ofWord? text

/-- A text cut after so many bytes, if that is between two of its characters. -/
def cutAfter? : Nat → List Char → Option (List Char × List Char)
  | 0, cs => some ([], cs)
  | _ + 1, [] => none
  | n + 1, c :: cs =>
    if n + 1 < c.utf8Size then none
    else (cutAfter? (n + 1 - c.utf8Size) cs).map fun (front, back) => (c :: front, back)

def mayStart (c : Char) : Bool := c = '-' || c = ':' || c = '_' || Text.isAlphanumeric c

/-- The place of the first of some signs in a text that starts at a place, with the sign and what
follows on it.  Places are counted in bytes. -/
def signFrom? (signs : List Char) : Nat → List Char → Option (Nat × Char × List Char)
  | _, [] => none
  | place, c :: cs =>
    if signs.contains c then some (place, c, cs) else signFrom? signs (place + c.utf8Size) cs

/-- The places of the parts that are found in a directive, where each of them starts and where those
end that do not reach to the end of the directive. -/
structure Layout where
  /-- The end of the target, which starts the directive. -/
  target : Option Nat
  span : Option (Nat × Nat)
  field : Option (Nat × Nat)
  level : Option Nat
  /-- Whether the directive is whole.  Parts may be found in one that turns out not to be. -/
  closed : Bool
  deriving DecidableEq, Repr

namespace Layout

def withLevel (l : Layout) (place : Nat) : List Char → Layout
  | [] => { l with closed := true }
  | c :: _ => if c = '=' then { l with level := some (place + 1), closed := true } else l

/-- The layout of a directive whose braces start at a place and must be closed together with its
brackets.  A field has a name. -/
def withField (l : Layout) (start : Nat) (text : List Char) : Layout :=
  match signFrom? ['\x7d'] start text with
  | none => l
  | some (stop, _, rest) =>
    let l := { l with field := some (start, stop) }
    match rest with
    | ']' :: rest => if start = stop then l else l.withLevel (stop + 2) rest
    | _ => l

/-- The layout of a directive whose brackets start at a place.  A span of work needs no name. -/
def withSpan (l : Layout) (start : Nat) (text : List Char) : Layout :=
  match signFrom? [']', '\x7b'] start text with
  | none => l
  | some (stop, sign, rest) =>
    let l := { l with span := some (start, stop) }
    if sign = ']' then l.withLevel (stop + 1) rest else l.withField (stop + 1) rest

def of : List Char → Layout
  | [] => ⟨none, none, none, none, false⟩
  | c :: cs =>
    if c = '[' then withSpan ⟨none, none, none, none, false⟩ 1 cs
    else if !mayStart c then ⟨none, none, none, none, false⟩
    else match signFrom? ['=', '['] 0 (c :: cs) with
      | none => ⟨none, none, none, none, true⟩
      | some (stop, sign, rest) =>
        if sign = '=' then ⟨some stop, none, none, some (stop + 1), true⟩
        else withSpan ⟨some stop, none, none, none, false⟩ (stop + 1) rest

def isSingle (l : Layout) : Bool := l = ⟨none, none, none, none, true⟩

end Layout

/-- The part of a text between two places. -/
def partOf (text : List Char) (place : Nat × Nat) : Except FilterFault (List Char) :=
  match (cutAfter? place.1 text).bind fun cut => cutAfter? (place.2 - place.1) cut.2 with
  | some (part, _) => .ok part
  | none => .error .uncut

def endOf (text : List Char) (place : Nat) : Except FilterFault (List Char) :=
  match cutAfter? place text with
  | some (_, part) => .ok part
  | none => .error .uncut

def pieces (sign : Char) : List Char → List (List Char)
  | [] => [[]]
  | c :: cs =>
    if c = sign then [] :: pieces sign cs
    else match pieces sign cs with
      | [] => [[c]]
      | piece :: more => (c :: piece) :: more

def FieldDemand.parse (patterns : Patterns) (text : List Char) : Except FilterFault FieldDemand :=
  match pieces '=' text with
  | [] => .ok ⟨[], none⟩
  | [name] => .ok ⟨name, none⟩
  | name :: value :: _ =>
    match patterns (String.ofList value) with
    | some why => .error (.field why)
    | none => .ok ⟨name, some value⟩

/-- The threshold that the end of a directive names.  Where nothing is named everything passes. -/
def Threshold.parseEnd : List Char → Except FilterFault Threshold
  | [] => .ok (.upTo .trace)
  | text =>
    match Threshold.parse? text with
    | some threshold => .ok threshold
    | none => .error .level

def Directive.ofParts (patterns : Patterns) (text : List Char) (l : Layout) :
    Except FilterFault Directive := do
  let target ← l.target.mapM fun stop => partOf text (0, stop)
  let span ← l.span.mapM (partOf text)
  let field ← l.field.mapM fun place => do FieldDemand.parse patterns (← partOf text place)
  if l.closed then
    let level ← l.level.mapM (endOf text)
    let threshold ← Threshold.parseEnd (level.getD [])
    return ⟨target, span.filter fun name => name ≠ [] || field.isNone, field, threshold⟩
  else throw .directive

/-- One directive.  White space around it is passed over to find its parts, but counts when they
are cut out, so that it ends up in the target or spoils the level. -/
def Directive.parse (patterns : Patterns) (text : List Char) : Except FilterFault Directive :=
  let l := Layout.of (Text.trimmed text)
  if l.isSingle then
    match Threshold.parse? text with
    | some threshold => .ok ⟨none, none, none, threshold⟩
    | none => .ok ⟨some text, none, none, .upTo .trace⟩
  else ofParts patterns text l

namespace Filter

def parse (patterns : Patterns) (text : String) : Except FilterFault Filter := do
  return ⟨← ((pieces ',' text.toList).filter (· ≠ [])).mapM (Directive.parse patterns)⟩

/-- Whether a directive can cover a record at all: it names no span of work and no value. -/
def concernsRecords (d : Directive) : Bool :=
  d.span.isNone && (d.field.bind (·.value)).isNone

/-- The names of the fields of a record.  The message is one of them. -/
def fieldNames (r : Record) : List String := "message" :: r.fields.map (·.1)

def covers (d : Directive) (r : Record) : Bool :=
  concernsRecords d &&
    (match d.target with
      | none => true
      | some start => start.isPrefixOf r.source.target.toList) &&
    (match d.field with
      | none => true
      | some demand => (fieldNames r).contains (String.ofList demand.name))

def nameUpTo : List Char → List Char → Bool
  | [], _ => true
  | _ :: _, [] => false
  | a :: as, b :: bs => if a = b then nameUpTo as bs else a < b

def weight (d : Directive) : Nat := (d.target.map (·.length)).getD 0

/-- Whether a directive that covers a record decides at most as much on it as another: a longer
target goes before a shorter one, and of equals one with a field, the one with the last name. -/
def yieldsTo (d e : Directive) : Bool :=
  if weight d = weight e then
    match d.field, e.field with
    | none, _ => true
    | some _, none => false
    | some a, some b => nameUpTo a.name b.name
  else weight d < weight e

/-- The directive that decides on a record, the latest of equals. -/
def deciding? (f : Filter) (r : Record) : Option Directive :=
  (f.directives.filter (covers · r)).foldl
    (fun best d =>
      match best with
      | some b => if yieldsTo b d then some d else best
      | none => some d)
    none

def admits (f : Filter) (r : Record) : Bool :=
  if f.directives.isEmpty then Threshold.admits (.upTo .error) r.level
  else match f.deciding? r with
    | some d => d.threshold.admits r.level
    | none => false

end Filter

end Replug.Log

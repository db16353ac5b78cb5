import Replug.Shell.Form
import Replug.Shell.Sum

/-!
# Expansion of words

What words come to: parameters give way to their values and scripts to what they print, values are
split at blanks, and forms give way to the names of files that have them.

An error in an expansion ends the script, which shows in the state.
-/

set_option autoImplicit false

namespace Replug.Shell

inductive Origin where
  | written
  | quoted
  /-- It is of a value, which is split. -/
  | computed
  deriving DecidableEq, Repr

inductive Atom where
  | char (origin : Origin) (c : Char)
  | gap
  /-- The sign that there is a word here, even if it has no characters. -/
  | mark
  deriving DecidableEq, Repr

abbrev Runner := Nat → Text → State → Bytes × State

namespace Atom

def whole (t : Text) : List Atom := .mark :: t.map (.char .quoted)

def ofValue (quoted : Bool) (t : Text) : List Atom :=
  if quoted then whole t else t.map (.char .computed)

def each (quoted : Bool) : List Text → List Atom
  | [] => []
  | [t] => ofValue quoted t
  | t :: ts => ofValue quoted t ++ .gap :: each quoted ts

def text (as : List Atom) : Text :=
  as.filterMap fun
    | .char _ c => some c
    | .gap => some ' '
    | .mark => none

def form (as : List Atom) : Form :=
  .ofMarks (as.filterMap fun
    | .char origin c => some ⟨origin = .quoted, c⟩
    | .gap => some ⟨true, ' '⟩
    | .mark => none)

def asValue (quoted : Bool) (as : List Atom) : List Atom :=
  if quoted then .mark :: as
  else as.map fun
    | .char .written c => .char .computed c
    | a => a

end Atom

/-- The output of a script as part of a word: a zero byte cannot stand in one, and the line ends at
the end are left out. -/
def withoutLineEnds (b : Bytes) : Text :=
  (((Text.ofBytes b).filter (· ≠ '\x00')).reverse.dropWhile (· = '\n')).reverse

def missing (emptyToo : Bool) : Text :=
  (if emptyToo then "parameter not set or null" else "parameter not set").toList

def State.valueOf (s : State) (name : Text) : Text × State :=
  match s.parameter? name with
  | some t => (t, s)
  | none =>
    if s.has 'u' && name ≠ ['@'] && name ≠ ['*'] then
      ([], s.abort ((name ++ ": ".toList ++ missing false).string))
    else ([], s)

mutual

def Piece.expand (run : Runner) : Piece → State → List Atom × State
  | .text quoted t, s =>
    (if quoted then .mark :: t.map (.char .quoted) else t.map (.char .written), s)
  | .parameter quoted name, s =>
    if name = ['@'] || (name = ['*'] && !quoted) then (Atom.each quoted s.parameters, s)
    else
      let (t, s) := s.valueOf name
      (Atom.ofValue quoted t, s)
  | .length quoted name, s =>
    let (t, s) := s.valueOf name
    (Atom.ofValue quoted (numeral t.length), s)
  | .meaningless, s => ([], s.abort "Bad substitution")
  | .sum quoted expression, s =>
    let (as, s) := expandAll run expression s
    if s.leaving.isSome then ([], s)
    else match Sum.evaluate (Atom.text as) s with
      | .ok (n, s) => (Atom.ofValue quoted (integerText n), s)
      | .error e => ([], s.abort e)
  | .output quoted line script, s =>
    let (b, s) := run line script s
    (Atom.ofValue quoted (withoutLineEnds b), s)
  | .altered quoted name emptyToo how other, s =>
    let value := s.parameter? name
    let isThere := match value with
      | some t => !(emptyToo && t.isEmpty)
      | none => false
    let asItIs (s : State) : List Atom × State :=
      if name = ['@'] then (Atom.each quoted s.parameters, s)
      else (Atom.ofValue quoted (value.getD []), s)
    match how with
    | .orElse =>
      if isThere then asItIs s
      else
        let (as, s) := expandAll run other s
        (Atom.asValue quoted as, s)
    | .instead =>
      if isThere then
        let (as, s) := expandAll run other s
        (Atom.asValue quoted as, s)
      else (Atom.ofValue quoted [], s)
    | .assigned =>
      if isThere then asItIs s
      else
        let (as, s) := expandAll run other s
        let t := Atom.text as
        if s.leaving.isSome then ([], s)
        else if isName name then (Atom.ofValue quoted t, s.set name t)
        else ([], s.abort (name.string ++ ": bad variable name"))
    | .demanded =>
      if isThere then asItIs s
      else
        let (as, s) := expandAll run other s
        let t := Atom.text as
        let why := if t.isEmpty then missing emptyToo else t
        if s.leaving.isSome then ([], s)
        else ([], s.abort ((name ++ ": ".toList ++ why).string))
    | .withoutFront longest =>
      let (t, s) := s.valueOf name
      let (as, s) := expandAll run other s
      (Atom.ofValue quoted (withoutFront longest (Atom.form as) t), s)
    | .withoutBack longest =>
      let (t, s) := s.valueOf name
      let (as, s) := expandAll run other s
      (Atom.ofValue quoted (withoutBack longest (Atom.form as) t), s)

def expandAll (run : Runner) : List Piece → State → List Atom × State
  | [], s => ([], s)
  | p :: ps, s =>
    let (as, s) := p.expand run s
    if s.leaving.isSome then (as, s)
    else
      let (more, s) := expandAll run ps s
      (as ++ more, s)

end

/-! ## Words -/

/-- A word in which a tilde at the front gives way to the home directory. -/
def Word.withHome (w : Word) (s : State) : Word :=
  match w with
  | .text false ('~' :: t) :: rest =>
    if t.head? = some '/' || (t.isEmpty && rest.isEmpty) then
      match s.value? "HOME".toList with
      | some home => .text true home :: .text false t :: rest
      | none => w
    else w
  | _ => w

/-- The fields that pieces make, given the one under way, the latest mark first.  `loose` says that
the latest field ended at a blank, so that another separator belongs to the same end. -/
def fieldsFrom (separators : Text) : Option (List Mark) → Bool → List Atom → List (List Mark)
  | field, _, [] => field.toList.map List.reverse
  | field, _, .mark :: rest => fieldsFrom separators (some (field.getD [])) false rest
  | field, _, .gap :: rest =>
    field.toList.map List.reverse ++ fieldsFrom separators none false rest
  | field, loose, .char origin c :: rest =>
    if origin = .computed && separators.contains c then
      let isBlank := c = ' ' || c = '\t' || c = '\n'
      match field with
      | some marks => marks.reverse :: fieldsFrom separators none isBlank rest
      | none =>
        if isBlank then fieldsFrom separators none loose rest
        else if loose then fieldsFrom separators none false rest
        else [] :: fieldsFrom separators none false rest
    else
      fieldsFrom separators (some (⟨origin = .quoted, c⟩ :: field.getD [])) false rest

def textOf (ms : List Mark) : Text := ms.map Mark.char

def meansFiles (ms : List Mark) : Bool :=
  ms.any fun m => m.means '*' || m.means '?' || m.means '['

def segmentsOf : List Mark → List (List Mark)
  | [] => [[]]
  | m :: ms =>
    if m.char = '/' then [] :: segmentsOf ms
    else match segmentsOf ms with
      | [] => [[m]]
      | first :: rest => (m :: first) :: rest

def pathOf (t : Text) : Path := ⟨t.toBytes⟩

def namesAt (files : Files) (p : Path) : List Text :=
  match files.find p with
  | .ok (.found place .directory) =>
    (files.listing place).filterMap fun (way, _) =>
      match way with
      | [name] => some (Text.ofBytes name)
      | _ => none
  | _ => []

/-- The names of a form in the directory before them, each after the text for it.  A name that
starts with a dot has to be asked for. -/
def namesLike (files : Files) (before : Text) (ms : List Mark) : List Text :=
  let form := Form.ofMarks ms
  let asksForDot := match form with
    | .exactly '.' :: _ => true
    | _ => false
  let directory := if before.isEmpty then Path.ofString "." else pathOf before
  ((namesAt files directory).filter fun name =>
    hasForm form name && (asksForDot || name.head? ≠ some '.')).map (before ++ ·)

def pathsLike (files : Files) (before : Text) : List (List Mark) → List Text
  | [] => [before]
  | [ms] =>
    if meansFiles ms then namesLike files before ms
    else
      let t := before ++ textOf ms
      if ms.isEmpty || files.pathExists (pathOf t) then [t] else []
  | ms :: rest =>
    let texts := if meansFiles ms then namesLike files before ms else [before ++ textOf ms]
    texts.flatMap fun t => pathsLike files (t ++ ['/']) rest

def matched (s : State) (ms : List Mark) : List Text :=
  if meansFiles ms && !s.has 'f' then
    match pathsLike s.files [] (segmentsOf ms) with
    | [] => [textOf ms]
    | paths => paths
  else [textOf ms]

def Word.fields (run : Runner) (w : Word) (s : State) : List Text × State :=
  let (as, s) := expandAll run (w.withHome s) s
  if s.leaving.isSome then ([], s)
  else ((fieldsFrom s.separators none false as).flatMap (matched s), s)

def fieldsOf (run : Runner) : List Word → State → List Text × State
  | [], s => ([], s)
  | w :: ws, s =>
    let (ts, s) := Word.fields run w s
    if s.leaving.isSome then ([], s)
    else
      let (more, s) := fieldsOf run ws s
      (ts ++ more, s)

def Word.value (run : Runner) (w : Word) (s : State) : Text × State :=
  let (as, s) := expandAll run (w.withHome s) s
  (Atom.text as, s)

def Word.form (run : Runner) (w : Word) (s : State) : Form × State :=
  let (as, s) := expandAll run (w.withHome s) s
  (Atom.form as, s)

end Replug.Shell

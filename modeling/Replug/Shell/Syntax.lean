import Replug.Shell.Text

/-!
# Shell scripts

The small shell language in which stand-ins for the usbip client are written: commands and lists of
them, conditions, loops, functions, redirections, and the usual expansions.

How a script is read is said in `Replug.Shell.Words` and `Replug.Shell.Grammar`, and what it does in
`Replug.Shell.Run`.
-/

set_option autoImplicit false

namespace Replug.Shell

inductive Alteration where
  /-- Something else takes the place of a value that is missing. -/
  | orElse
  | assigned
  /-- A value that is missing is an error. -/
  | demanded
  /-- Something else takes the place of a value that is there. -/
  | instead
  /-- The shortest, or the longest, beginning of a form is cut off. -/
  | withoutFront (longest : Bool)
  | withoutBack (longest : Bool)
  deriving DecidableEq, Repr

/-- A part of a word.  Quoted parts are never split into several words. -/
inductive Piece where
  | text (quoted : Bool) (t : Text)
  | parameter (quoted : Bool) (name : Text)
  | length (quoted : Bool) (name : Text)
  /-- A parameter with something done to it.  `emptyToo` says that an empty value counts as a
  missing one. -/
  | altered (quoted : Bool) (name : Text) (emptyToo : Bool) (how : Alteration)
      (other : List Piece)
  /-- Something between braces that has no meaning. -/
  | meaningless
  /-- What a script prints that starts on a line. -/
  | output (quoted : Bool) (line : Nat) (script : Text)
  | sum (quoted : Bool) (expression : List Piece)

abbrev Word := List Piece

inductive Direction where
  | input
  | output
  | append
  /-- A file that is there may be written over in any case. -/
  | clobber
  /-- A file is read from its start, and made if it is not there. -/
  | both
  | same
  | document
  deriving DecidableEq, Repr

structure Redirection where
  stream : Nat
  direction : Direction
  target : Word

inductive Sign where
  | lineEnd
  | semicolon
  | branchEnd
  | ampersand
  | both
  | either
  | pipe
  | opening
  | closing
  deriving DecidableEq, Repr

inductive Token where
  | word (w : Word)
  | redirect (stream : Nat) (direction : Direction)
  /-- A text to read follows after this line, up to a line with the next word.  Tabs before its
  lines are left out if it says so. -/
  | document (stream : Nat) (withoutTabs : Bool)
  | sign (s : Sign)
  | finish

/-- A command.  Lines are the ones to show with complaints. -/
inductive Command where
  | simple (line : Nat) (assignments : List (Text × Word)) (words : List Word)
      (redirections : List Redirection)
  /-- Two commands, the second one only if the first one succeeded, or only if it did not. -/
  | chain (ifSuccess : Bool) (first second : Command)
  | negated (c : Command)
  /-- Commands each of which reads what the one before it prints. -/
  | pipeline (cs : List Command)
  /-- A command that is not waited for. -/
  | background (c : Command)
  | conditional (test body other : List Command)
  | repeated (whileSuccess : Bool) (test body : List Command)
  | forEach (line : Nat) (name : Text) (words : List Word) (body : List Command)
  | choice (line : Nat) (subject : Word) (branches : List (List Word × List Command))
  | block (body : List Command)
  /-- Commands of which only their files and output remain. -/
  | apart (line : Nat) (body : List Command)
  | redirected (line : Nat) (c : Command) (redirections : List Redirection)
  | definition (name : Text) (body : Command)

def plain? : Word → Option Text
  | [.text false t] => some t
  | _ => none

def Word.reads (w : Word) (s : String) : Bool := plain? w == some s.toList

end Replug.Shell

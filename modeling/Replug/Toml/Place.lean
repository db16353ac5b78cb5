import Replug.Toml.Grammar

/-!
# Places in a document

How a message points at a stretch of the document: the line and the column where it starts, the
line itself, and carets below it.  Columns count characters, but the carets are as many as the
stretch has bytes, as far as the line goes.
-/

set_option autoImplicit false

namespace Replug.Toml

def byteLength : List Char → Nat
  | [] => 0
  | c :: cs => c.utf8Size + byteLength cs

structure Place where
  /-- The line, counted from 1. -/
  line : Nat
  /-- The characters before the stretch on its line. -/
  indent : Nat
  /-- The line without its end. -/
  source : List Char
  carets : Nat
  deriving DecidableEq, Repr

def Span.place (document : List Char) (span : Span) : Place :=
  let start := document.length - span.before
  let front := document.take start
  let indent := (front.reverse.takeWhile (· ≠ '\n')).length
  let source := (document.drop (start - indent)).takeWhile (· ≠ '\n')
  let bytes := byteLength ((document.drop start).take (span.before - span.after))
  { line := front.count '\n' + 1
    indent := indent
    source := source
    carets := max 1 (min bytes (byteLength source - indent)) }

def Place.complaint (p : Place) (what : String) : String :=
  let number := toString p.line
  let gutter := "".pushn ' ' (number.length + 1) ++ "|"
  "TOML parse error at line " ++ number ++ ", column " ++ toString (p.indent + 1) ++ "\n" ++
    gutter ++ "\n" ++
    number ++ " | " ++ String.ofList p.source ++ "\n" ++
    gutter ++ " " ++ "".pushn ' ' p.indent ++ "".pushn '^' p.carets ++ "\n" ++
    what ++ "\n"

end Replug.Toml

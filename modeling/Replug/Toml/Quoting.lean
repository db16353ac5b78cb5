import Replug.Toml.Text

/-!
# Writing quoted texts

A text is written in the plainest form that can hold it: on one line before several, and without
escapes as long as nothing calls for them.  Control characters call for escapes always, backslashes
and quotes only where the form has no room for them.
-/

set_option autoImplicit false

namespace Replug.Toml

def isControl (c : Char) : Bool :=
  (c.toNat < 0x20 && c ≠ '\t' && c ≠ '\n') || c.toNat = 0x7F

/-- The longest run of a character, given the length of the run that the text goes on with. -/
def longestRun (q : Char) : Nat → List Char → Nat
  | run, [] => run
  | run, c :: cs => if c = q then longestRun q (run + 1) cs else max run (longestRun q 0 cs)

def formFor (s : List Char) : Form :=
  let codes := s.any isControl
  let backslash := s.contains '\\'
  let lines := s.contains '\n'
  let singles := longestRun '\'' 0 s
  let doubles := longestRun '"' 0 s
  if !codes && !backslash && !lines && doubles = 0 then .basic
  else if !codes && !lines && singles = 0 then .literal
  else if !codes && !backslash && doubles ≤ 2 then .longBasic
  else if !codes && singles ≤ 2 then .longLiteral
  else if lines then .longBasic
  else .basic

def capitalDigit (n : Nat) : Char := (Nat.digitChar n).toUpper

def codeEscape (c : Char) : List Char :=
  let n := c.toNat
  ['\\', 'u', capitalDigit (n / 4096 % 16), capitalDigit (n / 256 % 16),
    capitalDigit (n / 16 % 16), capitalDigit (n % 16)]

def writtenChar (long : Bool) (c : Char) : List Char :=
  if c = '\n' then if long then ['\n'] else ['\\', 'n']
  else if c = '\\' then ['\\', '\\']
  else if c = '\t' then ['\\', 't']
  else if c = '\x08' then ['\\', 'b']
  else if c = '\x0c' then ['\\', 'f']
  else if c = '\r' then ['\\', 'r']
  else if isControl c then codeEscape c
  else [c]

/-- The text in a form with escapes, after so many quotes in a row.  The long form has room for two
quotes in a row, the other one for none. -/
def writtenEscaped (long : Bool) : Nat → List Char → List Char
  | _, [] => []
  | run, c :: cs =>
    if c = '"' then
      if long && run < 2 then c :: writtenEscaped long (run + 1) cs
      else '\\' :: '"' :: writtenEscaped long 0 cs
    else writtenChar long c ++ writtenEscaped long 0 cs

def writtenBody (f : Form) (s : List Char) : List Char :=
  if f.hasEscapes then writtenEscaped f.isLong 0 s else s

/-- A text in quotes.  A long text of several lines starts on a line of its own. -/
def written (s : List Char) : List Char :=
  let f := formFor s
  let opening := if f.isLong && s.contains '\n' then ['\n'] else []
  f.delimiter ++ opening ++ writtenBody f s ++ f.delimiter

end Replug.Toml

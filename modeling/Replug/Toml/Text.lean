/-!
# Quoted texts

The four ways in which a document quotes a text, and how each is read.  A basic form knows escapes
and a literal form does not; a long form may run over several lines and ends at three quotes, two
more of which may stand right before them as part of the text.

Every reader here takes the characters after the opening quotes and gives the text and the
characters after the closing ones.  A reader that gives nothing has met something that is no
document.
-/

set_option autoImplicit false

namespace Replug.Toml

/-- A way to read something from the front of a text: its value and the rest. -/
abbrev Reader (α : Type) := List Char → Option (α × List Char)

def isBlank (c : Char) : Bool := c = ' ' || c = '\t'

def isCommentChar (c : Char) : Bool :=
  c = '\t' || (0x20 ≤ c.toNat && c.toNat ≠ 0x7F)

def newline? : List Char → Option (List Char)
  | '\n' :: rest => some rest
  | '\r' :: '\n' :: rest => some rest
  | _ => none

def hexDigit? (c : Char) : Option Nat :=
  if '0' ≤ c ∧ c ≤ '9' then some (c.toNat - '0'.toNat)
  else if 'a' ≤ c ∧ c ≤ 'f' then some (c.toNat - 'a'.toNat + 10)
  else if 'A' ≤ c ∧ c ≤ 'F' then some (c.toNat - 'A'.toNat + 10)
  else none

def charOf? (code : Nat) : Option Char :=
  if code.isValidChar then some (Char.ofNat code) else none

inductive Form where
  | basic
  | literal
  | longBasic
  | longLiteral
  deriving DecidableEq, Repr

namespace Form

def quote : Form → Char
  | .basic | .longBasic => '"'
  | .literal | .longLiteral => '\''

def isLong : Form → Bool
  | .basic | .literal => false
  | .longBasic | .longLiteral => true

def hasEscapes : Form → Bool
  | .basic | .longBasic => true
  | .literal | .longLiteral => false

def delimiter (f : Form) : List Char := List.replicate (if f.isLong then 3 else 1) f.quote

end Form

def escaped? : Char → Option Char
  | 'b' => some '\x08'
  | 't' => some '\t'
  | 'n' => some '\n'
  | 'f' => some '\x0c'
  | 'r' => some '\r'
  | '"' => some '"'
  | '\\' => some '\\'
  | _ => none

inductive Reading where
  | plain
  /-- An escape, right after its backslash. -/
  | escape
  /-- The code of a character, with so many digits to come after those read. -/
  | code (due value : Nat)
  | lineEnd
  /-- The blanks and line ends that such a backslash removes. -/
  | removed
  deriving DecidableEq, Repr

def keep (c : Char) (read : Option (List Char × List Char)) : Option (List Char × List Char) :=
  read.map fun (text, rest) => (c :: text, rest)

/-- The end of a long text after three quotes: up to two more quotes end it in their stead. -/
def closeLong (quote : Char) : List Char → List Char × List Char
  | a :: b :: rest =>
    if a = quote then
      if b = quote then ([a, b], rest) else ([a], b :: rest)
    else ([], a :: b :: rest)
  | [a] => if a = quote then ([a], []) else ([], [a])
  | [] => ([], [])

def quotesFollow (quote : Char) : List Char → Bool
  | a :: b :: _ => a = quote && b = quote
  | _ => false

def quotedBody (f : Form) : Reading → Reader (List Char)
  | _, [] => none
  | state, c :: rest =>
    let plain (_ : Unit) : Option (List Char × List Char) :=
      if c = f.quote then
        if f.isLong then
          if quotesFollow f.quote rest then some (closeLong f.quote (rest.drop 2))
          else keep c (quotedBody f .plain rest)
        else some ([], rest)
      else if c = '\\' && f.hasEscapes then quotedBody f .escape rest
      else if c = '\n' then if f.isLong then keep c (quotedBody f .plain rest) else none
      else if c = '\r' then
        if f.isLong && rest.head? = some '\n' then quotedBody f .plain rest else none
      else if isCommentChar c then keep c (quotedBody f .plain rest)
      else none
    match state with
    | .plain => plain ()
    | .escape =>
      match escaped? c with
      | some e => keep e (quotedBody f .plain rest)
      | none =>
        if c = 'u' then quotedBody f (.code 4 0) rest
        else if c = 'U' then quotedBody f (.code 8 0) rest
        else if !f.isLong then none
        else if isBlank c then quotedBody f .lineEnd rest
        else if c = '\n' then quotedBody f .removed rest
        else if c = '\r' && rest.head? = some '\n' then quotedBody f .lineEnd rest
        else none
    | .code due value =>
      match hexDigit? c with
      | none => none
      | some digit =>
        if due ≤ 1 then
          match charOf? (value * 16 + digit) with
          | some e => keep e (quotedBody f .plain rest)
          | none => none
        else quotedBody f (.code (due - 1) (value * 16 + digit)) rest
    | .lineEnd =>
      if isBlank c then quotedBody f .lineEnd rest
      else if c = '\n' then quotedBody f .removed rest
      else if c = '\r' && rest.head? = some '\n' then quotedBody f .lineEnd rest
      else none
    | .removed =>
      if isBlank c || c = '\n' then quotedBody f .removed rest
      else if c = '\r' && rest.head? = some '\n' then quotedBody f .removed rest
      else plain ()

/-- The form that the front of a text opens, and what follows the opening quotes.  A line end right
after the quotes of a long form is not part of the text. -/
def opening? : List Char → Option (Form × List Char)
  | '"' :: '"' :: '"' :: rest => some (.longBasic, (newline? rest).getD rest)
  | '\'' :: '\'' :: '\'' :: rest => some (.longLiteral, (newline? rest).getD rest)
  | '"' :: rest => some (.basic, rest)
  | '\'' :: rest => some (.literal, rest)
  | _ => none

def quoted : Reader String := fun cs =>
  match opening? cs with
  | none => none
  | some (f, inside) =>
    (quotedBody f .plain inside).map fun (text, rest) => (String.ofList text, rest)

def shortQuoted : Reader String
  | '"' :: inside =>
    (quotedBody .basic .plain inside).map fun (text, rest) => (String.ofList text, rest)
  | '\'' :: inside =>
    (quotedBody .literal .plain inside).map fun (text, rest) => (String.ofList text, rest)
  | _ => none

end Replug.Toml

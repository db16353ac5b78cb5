import Replug.Shell.Source

/-!
# Words and tokens of a script

How a word is read: its quotes, its expansions, and where it ends.  A word may hold commands whose
output takes their place; the reader for those is given from outside.
-/

set_option autoImplicit false

namespace Replug.Shell

open Reader

def endsWord (c : Char) : Bool :=
  c = ' ' || c = '\t' || c = '\n' || c = ';' || c = '&' || c = '|' || c = '<' || c = '>' ||
    c = '(' || c = ')'

def isSpecial (c : Char) : Bool :=
  c = '#' || c = '*' || c = '@' || c = '$' || c = '?' || c = '!' || c = '-' || c.isDigit

inductive Extent where
  /-- To a character that ends a word. -/
  | word
  /-- To the double quote that closes. -/
  | quotes
  /-- To the brace that closes. -/
  | braces
  /-- To two parentheses that close, with so many others open. -/
  | sum (depth : Nat)
  | document
  deriving DecidableEq, Repr

def Extent.unfinished : Extent → Option String
  | .word | .document => none
  | .quotes => some "Unterminated quoted string"
  | .braces => some "Missing '\x7d'"
  | .sum _ => some "Missing '))'"

def refuseForm {α : Type} (complaint : String) : Reader α := refuse ("Syntax error: " ++ complaint)

def literal : Reader Text :=
  steps (fun (t : Text) => do
    match ← bare with
    | some '\'' => return .inr t.reverse
    | some c => return .inl (c :: t)
    | none => refuseForm "Unterminated quoted string") []

def backquoted (quoted : Bool) : Reader Text :=
  steps (fun (t : Text) => do
    match ← next with
    | some '`' => return .inr t.reverse
    | some '\\' =>
      match ← bare with
      | some c =>
        if c = '\\' || c = '`' || c = '$' || (quoted && c = '"') then return .inl (c :: t)
        else return .inl (c :: '\\' :: t)
      | none => refuseForm "EOF in backquote substitution"
    | some c => return .inl (c :: t)
    | none => refuseForm "EOF in backquote substitution") []

def bracedName : Reader (Option (Bool × Text)) := do
  match ← peek with
  | some '#' =>
    let _ ← next
    match (← get).joined.rest with
    | '\x7d' :: _ => return some (false, ['#'])
    | c :: cs =>
      if isNameChar c then return some (true, ← nameRest)
      else if isSpecial c && cs.head? = some '\x7d' then
        let _ ← next
        return some (true, [c])
      else return some (false, ['#'])
    | [] => return some (false, ['#'])
  | some c =>
    if startsName c then return some (false, ← nameRest)
    else if c.isDigit then
      let t ← nameRest
      return if t.all Char.isDigit then some (false, t) else none
    else if isSpecial c then
      let _ ← next
      return some (false, [c])
    else return none
  | none => return none

/-- What a character between braces asks for.  A second one of its kind asks for the longest part
that can be cut off. -/
def alterationOf? (c : Char) (again : Bool) : Option Alteration :=
  match c with
  | '-' => some .orElse
  | '=' => some .assigned
  | '?' => some .demanded
  | '+' => some .instead
  | '#' => some (.withoutFront again)
  | '%' => some (.withoutBack again)
  | _ => none

/-- Whether an alteration cuts something off.  What it cuts is a form, which is read as if it stood
outside of quotes. -/
def Alteration.cuts : Alteration → Bool
  | .withoutFront _ | .withoutBack _ => true
  | _ => false

/-- The alteration that is asked for next, and whether an empty value counts as a missing one. -/
def alteration : Reader (Option (Bool × Alteration)) := do
  let emptyToo ← takes ':'
  match ← peek with
  | none => return none
  | some c =>
    match alterationOf? c false with
    | none => return none
    | some how =>
      if how.cuts then
        if emptyToo then return none
        let _ ← next
        let again ← takes c
        return (alterationOf? c again).map fun how => (false, how)
      else
        let _ ← next
        return some (emptyToo, how)

/-- A reader for the parts of a word, quoted or not, to their extent. -/
abbrev PartsReader := Bool → Extent → Reader (List Piece)

def meaningless (parts : PartsReader) (quoted : Bool) : Reader Piece := do
  if (← peek) = some '\n' then refuseForm "Missing '\x7d'"
  let _ ← parts quoted .braces
  return .meaningless

def braced (parts : PartsReader) (quoted : Bool) : Reader Piece := do
  match ← bracedName with
  | none => meaningless parts quoted
  | some (isLength, name) =>
    if ← takes '\x7d' then
      return if isLength then .length quoted name else .parameter quoted name
    else
      match ← (if isLength then return none else alteration) with
      | some (emptyToo, how) =>
        let other ← parts (quoted && !how.cuts) .braces
        return .altered quoted name emptyToo how other
      | none => meaningless parts quoted

/-- The expansion after a dollar sign.  `inner` reads commands and the parenthesis after them. -/
def expansion (parts : PartsReader) (inner : Reader Unit) (quoted : Bool) : Reader Piece := do
  match ← peek with
  | some '(' =>
    let _ ← next
    if ← takes '(' then return .sum quoted (← parts true (.sum 0))
    else
      let line := (← get).line
      let (_, script) ← withText inner
      return .output quoted line script.dropLast
  | some '\x7b' =>
    let _ ← next
    braced parts quoted
  | some c =>
    if isSpecial c then
      let _ ← next
      return .parameter quoted [c]
    else if startsName c then return .parameter quoted (← nameRest)
    else return .text quoted ['$']
  | none => return .text quoted ['$']

def escaped (quoted : Bool) (extent : Extent) : Option Char → Text
  | none => ['\\']
  | some c =>
    if !quoted || c = '\\' || c = '`' || c = '$' || (c = '"' && extent ≠ .document) ||
        (c = '\x7d' && extent = .braces) then [c]
    else ['\\', c]

def pieces (inner : Reader Unit) : Nat → Bool → Extent → Reader (List Piece)
  | 0, _, _ => refuse "Word too long"
  | fuel + 1, quoted, extent => do
    let others (extent : Extent) (ps : List Piece) : Reader (List Piece) := do
      return ps ++ (← pieces inner fuel quoted extent)
    let more := others extent
    match ← peek with
    | none =>
      match extent.unfinished with
      | some complaint => refuseForm complaint
      | none => return []
    | some c =>
      if extent = .word && endsWord c then return []
      else
        let _ ← next
        let asItIs := more [.text quoted [c]]
        match c, extent with
        | '"', .quotes => return []
        | '"', .document => asItIs
        | '"', .sum _ => more []
        | '"', _ =>
          let ps ← pieces inner fuel true .quotes
          more (if ps.isEmpty then [.text true []] else ps)
        | '\'', _ => if quoted then asItIs else more [.text true (← literal)]
        | '\\', _ => more [.text true (escaped quoted extent (← bare))]
        | '$', _ => more [← expansion (pieces inner fuel) inner quoted]
        | '`', _ =>
          let line := (← get).line
          more [.output quoted line (← backquoted quoted)]
        | '\x7d', .braces => return []
        | '(', .sum depth => others (.sum (depth + 1)) [.text quoted [c]]
        | ')', .sum 0 => if ← takes ')' then return [] else asItIs
        | ')', .sum (depth + 1) => others (.sum depth) [.text quoted [c]]
        | _, _ => asItIs

def Word.joined : Word → Word
  | [] => []
  | .text quoted t :: rest =>
    match joined rest with
    | .text quoted' t' :: more =>
      if quoted = quoted' then .text quoted (t ++ t') :: more
      else .text quoted t :: .text quoted' t' :: more
    | more => .text quoted t :: more
  | p :: rest => p :: joined rest

def Word.assignment? : Word → Option (Text × Word)
  | .text false t :: rest =>
    let name := t.takeWhile isNameChar
    match t.drop name.length with
    | '=' :: value =>
      if isName name then some (name, if value.isEmpty then rest else .text false value :: rest)
      else none
    | _ => none
  | _ => none

/-! ## Tokens -/

def skipGaps : Reader Unit :=
  steps (fun (_ : Unit) => do
    match ← peek with
    | some c =>
      if isGap c then
        let _ ← next
        return .inl ()
      else if c = '#' then
        modify fun s => { s with rest := s.rest.dropWhile (· ≠ '\n') }
        return .inr ()
      else return .inr ()
    | none => return .inr ()) ()

def redirection (stream : Option Nat) : Reader Token := do
  let sign ← next
  if sign = some '>' then
    let stream := stream.getD 1
    if ← takes '>' then return .redirect stream .append
    else if ← takes '&' then return .redirect stream .same
    else if ← takes '|' then return .redirect stream .clobber
    else return .redirect stream .output
  else
    let stream := stream.getD 0
    if ← takes '<' then return .document stream (← takes '-')
    else if ← takes '&' then return .redirect stream .same
    else if ← takes '>' then return .redirect stream .both
    else return .redirect stream .input

/-- Whether a digit comes next and then the sign of a redirection for the stream that it names. -/
def namesStream (s : Source) : Bool :=
  match s.joined.rest with
  | d :: rest =>
    d.isDigit && match (Source.joints rest).2 with
      | c :: _ => c = '<' || c = '>'
      | [] => false
  | [] => false

def token (inner : Reader Unit) : Reader Token := do
  skipGaps
  match ← peek with
  | none => return .finish
  | some c =>
    let sign (s : Sign) : Reader Token := do
      let _ ← next
      return .sign s
    let doubled (single double : Sign) : Reader Token := do
      let _ ← next
      return .sign (if ← takes c then double else single)
    match c with
    | '\n' => sign .lineEnd
    | ';' => doubled .semicolon .branchEnd
    | '&' => doubled .ampersand .both
    | '|' => doubled .pipe .either
    | '(' => sign .opening
    | ')' => sign .closing
    | '<' | '>' => redirection none
    | _ =>
      let s ← get
      if namesStream s then
        let _ ← next
        redirection (some (digitValue c))
      else return .word (Word.joined (← pieces inner (s.rest.length + 1) false .word))

/-! ## Documents -/

/-- The lines of a document up to the one that ends it, and the characters that they take along
with that one. -/
def documentLines (withoutTabs : Bool) (last : Text) : Nat → Text → Text × Nat
  | 0, _ => ([], 0)
  | _, [] => ([], 0)
  | fuel + 1, t =>
    let line := t.takeWhile (· ≠ '\n')
    let kept := if withoutTabs then line.dropWhile (· = '\t') else line
    let rest := t.drop line.length
    if kept = last then ([], line.length + min 1 rest.length)
    else
      let (more, count) := documentLines withoutTabs last fuel rest.tail
      (kept ++ rest.take 1 ++ more, line.length + min 1 rest.length + count)

def documentText (withoutTabs : Bool) (last : Text) : Reader Text := fun s =>
  let after := ((s.rest.dropWhile (· ≠ '\n')).tail).drop s.taken
  let (text, count) := documentLines withoutTabs last (after.length + 1) after
  .ok (text, { s with taken := s.taken + count })

def Word.spelled : Word → Text
  | [] => []
  | .text _ t :: rest => t ++ spelled rest
  | .parameter _ name :: rest => '$' :: name ++ spelled rest
  | _ :: rest => spelled rest

def Piece.isQuoted : Piece → Bool
  | .text quoted _ | .parameter quoted _ | .length quoted _ | .altered quoted _ _ _ _
  | .output quoted _ _ | .sum quoted _ => quoted
  | .meaningless => false

/-- The document that a word ends.  Nothing is expanded in it if a part of the word is quoted. -/
def document (inner : Reader Unit) (withoutTabs : Bool) (last : Word) : Reader Word := do
  let text ← documentText withoutTabs last.spelled
  if last.any Piece.isQuoted then return [.text true text]
  else
    let s ← get
    match pieces inner (text.length + 1) true .document (.start (s.line + 1) text) with
    | .ok (ps, _) => return Word.joined ps
    | .error e => throw e

end Replug.Shell

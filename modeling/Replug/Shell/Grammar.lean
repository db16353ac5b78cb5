import Replug.Shell.Words

/-!
# Commands of a script

How commands are read.  A script is read line by line: the commands of a line, with all that they
need of the lines after it, can be carried out before the next one is looked at.

Commands hold commands, so each reader is given the readers for what is one level deeper.  A text
cannot nest deeper than it is long.
-/

set_option autoImplicit false

namespace Replug.Shell

open Reader

def keywords : List String := [
  "!", "case", "do", "done", "elif", "else", "esac", "fi", "for", "if", "in", "then", "until",
  "while", "\x7b", "\x7d"]

def listEnds : List String := ["do", "done", "elif", "else", "esac", "fi", "then", "\x7d"]

/-- The builtin commands that a function cannot take the place of, and whose errors end a
script. -/
def specialNames : List String := [
  ".", ":", "break", "continue", "eval", "exec", "exit", "export", "local", "readonly", "return",
  "set", "shift", "times", "trap", "unset"]

def Token.keyword? : Token → Option String
  | .word w => keywords.find? w.reads
  | _ => none

def Token.isWord (t : Token) (s : String) : Bool := t.keyword? == some s

def Token.signs (t : Token) (s : Sign) : Bool :=
  match t with
  | .sign s' => s' == s
  | _ => false

def Sign.text : Sign → String
  | .lineEnd => "newline"
  | .semicolon => "\";\""
  | .branchEnd => "\";;\""
  | .ampersand => "\"&\""
  | .both => "\"&&\""
  | .either => "\"||\""
  | .pipe => "\"|\""
  | .opening => "\"(\""
  | .closing => "\")\""

def Token.text (t : Token) : String :=
  match t with
  | .word _ =>
    match t.keyword? with
    | some k => "\"" ++ k ++ "\""
    | none => "word"
  | .redirect _ _ | .document _ _ => "redirection"
  | .sign s => s.text
  | .finish => "end of file"

def Token.endsList (t : Token) : Bool :=
  match t with
  | .word w => listEnds.any w.reads
  | .sign .closing | .sign .branchEnd | .finish => true
  | _ => false

/-- The readers for what stands one level deeper: commands that a parenthesis closes, and a
command. -/
structure Deeper where
  enclosed : Reader Unit
  command : Reader Command

namespace Deeper

variable (d : Deeper)

def token : Reader Token := Shell.token d.enclosed

def coming : Reader Token := ahead d.token

def skipLines : Reader Unit :=
  steps (fun (_ : Unit) => do
    if (← d.coming).signs .lineEnd then
      let _ ← d.token
      return .inl ()
    else return .inr ()) ()

def unexpected {α : Type} (wanted : Option String) : Reader α := do
  let t ← d.token
  let wanted := match wanted with
    | some s => " (expecting " ++ s ++ ")"
    | none => ""
  refuseForm (t.text ++ " unexpected" ++ wanted)

def takesWord (s : String) : Reader Bool := do
  if (← d.coming).isWord s then
    let _ ← d.token
    return true
  else return false

def takesSign (s : Sign) : Reader Bool := do
  if (← d.coming).signs s then
    let _ ← d.token
    return true
  else return false

def expect (s : String) : Reader Unit := do
  if !(← d.takesWord s) then d.unexpected (some ("\"" ++ s ++ "\""))

def redirection? : Reader (Option Redirection) := do
  let word : Reader Word := do
    match ← d.coming with
    | .word w =>
      let _ ← d.token
      return w
    | _ => d.unexpected none
  match ← d.coming with
  | .redirect stream direction =>
    let _ ← d.token
    return some ⟨stream, direction, ← word⟩
  | .document stream withoutTabs =>
    let _ ← d.token
    return some ⟨stream, .document, ← document d.enclosed withoutTabs (← word)⟩
  | _ => return none

def redirections : Reader (List Redirection) :=
  steps (fun (rs : List Redirection) => do
    match ← d.redirection? with
    | some r => return .inl (r :: rs)
    | none => return .inr rs.reverse) []

def pipeline : Reader Command := do
  let negated ← d.takesWord "!"
  let first ← d.command
  let others ← steps (fun (cs : List Command) => do
    if ← d.takesSign .pipe then
      d.skipLines
      return .inl ((← d.command) :: cs)
    else return .inr cs.reverse) []
  let c := if others.isEmpty then first else .pipeline (first :: others)
  return if negated then .negated c else c

def chained : Reader Command := do
  let first ← d.pipeline
  steps (fun (c : Command) => do
    if ← d.takesSign .both then
      d.skipLines
      return .inl (.chain true c (← d.pipeline))
    else if ← d.takesSign .either then
      d.skipLines
      return .inl (.chain false c (← d.pipeline))
    else return .inr c) first

def list (mayBeEmpty : Bool) : Reader (List Command) :=
  steps (fun (cs : List Command) => do
    d.skipLines
    let t ← d.coming
    let isEnd := match t with
      | .finish => true
      | _ => (mayBeEmpty || !cs.isEmpty) && t.endsList
    if isEnd then return .inr cs.reverse
    else
      let c ← d.chained
      if ← d.takesSign .ampersand then return .inl (.background c :: cs)
      else if ← d.takesSign .semicolon then return .inl (c :: cs)
      else if (← d.coming).signs .lineEnd then return .inl (c :: cs)
      else return .inr (c :: cs).reverse) []

def line : Reader (Option (List Command)) := do
  match ← d.coming with
  | .finish => return none
  | _ =>
    let cs ← steps (fun (cs : List Command) => do
      match ← d.coming with
      | .finish => return .inr cs.reverse
      | .sign .lineEnd =>
        let _ ← d.token
        return .inr cs.reverse
      | _ =>
        let c ← d.chained
        if ← d.takesSign .ampersand then return .inl (.background c :: cs)
        else if ← d.takesSign .semicolon then return .inl (c :: cs)
        else match ← d.coming with
          | .finish | .sign .lineEnd => return .inl (c :: cs)
          | _ => d.unexpected none) []
    return some cs

/-! ## Single commands -/

/-- What follows on `if` or `elif`, up to the end of it all.  The tests and their bodies come the
latest first. -/
def conditional : Reader Command := do
  let branch : Reader (List Command × List Command) := do
    let test ← d.list false
    d.expect "then"
    return (test, ← d.list false)
  let first ← branch
  let (branches, other) ← steps (fun (bs : List (List Command × List Command)) => do
    if ← d.takesWord "elif" then return .inl ((← branch) :: bs)
    else if ← d.takesWord "else" then return .inr (bs, ← d.list false)
    else return .inr (bs, [])) [first]
  d.expect "fi"
  let all := branches.foldl (fun other (test, body) => [Command.conditional test body other]) other
  return .block all

def loop (whileSuccess : Bool) : Reader Command := do
  let test ← d.list false
  d.expect "do"
  let body ← d.list false
  d.expect "done"
  return .repeated whileSuccess test body

def words : Reader (List Word) :=
  steps (fun (ws : List Word) => do
    match ← d.coming with
    | .word w =>
      let _ ← d.token
      return .inl (w :: ws)
    | _ => return .inr ws.reverse) []

def forEach (line : Nat) : Reader Command := do
  let name ← match ← d.token with
    | .word w =>
      match plain? w with
      | some t => if isName t then pure t else refuseForm "Bad for loop variable"
      | none => refuseForm "Bad for loop variable"
    | _ => refuseForm "Bad for loop variable"
  d.skipLines
  let ws ← if ← d.takesWord "in" then
      let ws ← d.words
      if !((← d.takesSign .semicolon) || (← d.takesSign .lineEnd)) then d.unexpected none
      pure ws
    else
      let _ ← d.takesSign .semicolon
      pure [[.parameter true ['@']]]
  d.skipLines
  d.expect "do"
  let body ← d.list false
  d.expect "done"
  return .forEach line name ws body

/-- The forms of a branch, with the parenthesis after them.  A sign in the place of a form counts as
an empty one. -/
def forms : Reader (List Word) := do
  let _ ← d.takesSign .opening
  steps (fun (ws : List Word) => do
    let w := match ← d.token with
      | .word w => w
      | _ => []
    if ← d.takesSign .pipe then return .inl (w :: ws)
    else if ← d.takesSign .closing then return .inr (w :: ws).reverse
    else d.unexpected (some "\")\"")) []

def choice (line : Nat) : Reader Command := do
  let subject ← match ← d.coming with
    | .word w => do
      let _ ← d.token
      pure w
    | _ => d.unexpected (some "word")
  d.skipLines
  d.expect "in"
  let branches ← steps (fun (bs : List (List Word × List Command)) => do
    d.skipLines
    if ← d.takesWord "esac" then return .inr bs.reverse
    else
      let ws ← d.forms
      let b := (ws, ← d.list true)
      d.skipLines
      if ← d.takesWord "esac" then return .inr (b :: bs).reverse
      else if ← d.takesSign .branchEnd then return .inl (b :: bs)
      else d.unexpected (some "\";;\"")) []
  return .choice line subject branches

/-- The parts of a simple command that were read, each list the latest first. -/
structure Parts where
  assignments : List (Text × Word)
  words : List Word
  redirections : List Redirection

def definition (name : Word) : Reader Command := do
  let _ ← d.token
  if !(← d.takesSign .closing) then d.unexpected (some "\")\"")
  let t := name.spelled
  if !isName t || specialNames.contains t.string then refuseForm "Bad function name"
  d.skipLines
  return .definition t (← d.command)

def simple (line : Nat) : Reader Command := do
  steps (fun (p : Parts) => do
    match ← d.coming with
    | .word w =>
      let _ ← d.token
      match p.words, Word.assignment? w with
      | [], some a => return .inl { p with assignments := a :: p.assignments }
      | _, _ => return .inl { p with words := w :: p.words }
    | .redirect _ _ | .document _ _ =>
      match ← d.redirection? with
      | some r => return .inl { p with redirections := r :: p.redirections }
      | none => d.unexpected none
    | t =>
      match p with
      | ⟨[], [name], []⟩ =>
        if t.signs .opening then return .inr (← d.definition name)
      | _ => pure ()
      return .inr
        (.simple line p.assignments.reverse p.words.reverse p.redirections.reverse)) ⟨[], [], []⟩

/-- The compound command that a token begins, or nothing if it begins none.  The token has been
taken. -/
def compound? (line : Nat) (t : Token) : Option (Reader Command) :=
  match t with
  | .sign .opening => some do
    let body ← d.list false
    if !(← d.takesSign .closing) then d.unexpected (some "\")\"")
    return .apart line body
  | _ =>
    match t.keyword? with
    | some "if" => some d.conditional
    | some "while" => some (d.loop true)
    | some "until" => some (d.loop false)
    | some "for" => some (d.forEach line)
    | some "case" => some (d.choice line)
    | some "\x7b" => some do
      let body ← d.list false
      d.expect "\x7d"
      return .block body
    | _ => none

def commandHere : Reader Command := do
  let t ← d.coming
  skipGaps
  let line := (← get).line
  match d.compound? line t with
  | some body =>
    let _ ← d.token
    let c ← body
    let rs ← d.redirections
    return if rs.isEmpty then c else .redirected line c rs
  | none =>
    match t with
    | .word _ => if t.keyword?.isSome then d.unexpected none else d.simple line
    | .redirect _ _ | .document _ _ => d.simple line
    | .sign _ | .finish => d.unexpected none

def enclosedHere : Reader Unit := do
  let _ ← d.list true
  if !(← d.takesSign .closing) then d.unexpected (some "\")\"")

end Deeper

def deeper : Nat → Deeper
  | 0 => ⟨refuse "Too deep", refuse "Too deep"⟩
  | n + 1 => ⟨(deeper n).enclosedHere, (deeper n).commandHere⟩

def Source.line? (s : Source) : Except Refusal (Option (List Command × Source)) :=
  match (deeper (s.rest.length + 1)).line s with
  | .ok (some cs, s) => .ok (some (cs, s))
  | .ok (none, _) => .ok none
  | .error e => .error e

end Replug.Shell

import Replug.Log.Filter
import Replug.Toml.Text

/-!
# Patterns

The values that a filter may demand of a field: truth values, numbers and regular expressions.  Which
texts are such values is all that matters here, since no record is ever held against one.

A regular expression is read from the front, with the number of groups that are open and whether
there is something to be repeated.  A field ends at the first brace, so that nothing that needs one
to be closed can come to its end.
-/

set_option autoImplicit false

namespace Replug.Log.Pattern

def illFormed : String := "error building NFA"

/-- Why a regular expression is refused that asks for the edge of a word. -/
def wordEdge : String :=
  "unsupported regex feature for DFAs: cannot build DFAs for regexes with Unicode word boundaries; " ++
    "switch to ASCII word boundaries, or heuristically enable Unicode word boundaries or use a " ++
      "different regex engine"

def isNumber (text : List Char) : Bool :=
  let body := match text with
    | c :: cs => if c = '+' || c = '-' then cs else text
    | [] => []
  let afterWhole := body.dropWhile Char.isDigit
  let (places, afterPlaces) := match afterWhole with
    | '.' :: cs => (cs.takeWhile Char.isDigit, cs.dropWhile Char.isDigit)
    | _ => ([], afterWhole)
  let ends := match afterPlaces with
    | [] => true
    | e :: cs =>
      let power := match cs with
        | c :: ds => if c = '+' || c = '-' then ds else cs
        | [] => []
      e.toLower = 'e' && power ≠ [] && power.all Char.isDigit
  ["inf", "infinity", "nan"].contains (String.ofList (body.map Char.toLower)) ||
    (body.takeWhile Char.isDigit ++ places ≠ [] && ends)

/-- What follows on so many digits of a character's code, and the character. -/
def codeOf (count : Nat) (text : List Char) : Except String (Option Char × List Char) :=
  match (text.take count).mapM Toml.hexDigit? with
  | some digits =>
    if digits.length = count then
      match Toml.charOf? (digits.foldl (fun n d => n * 16 + d) 0) with
      | some c => .ok (some c, text.drop count)
      | none => .error illFormed
    else .error illFormed
  | none => .error illFormed

/-- What follows on a backslash and what it is written with, and the character that is meant if it is
a single one. -/
def escape : List Char → Except String (Option Char × List Char)
  | [] => .error illFormed
  | c :: rest =>
    if ['d', 'D', 's', 'S', 'w', 'W'].contains c then .ok (none, rest)
    else if ['a', 'f', 'n', 'r', 't', 'v'].contains c then .ok (some c, rest)
    else if c = 'x' then codeOf 2 rest
    else if c = 'u' then codeOf 4 rest
    else if c = 'U' then codeOf 8 rest
    else if c = 'p' || c = 'P' then
      match rest with
      | k :: rest =>
        if ['L', 'M', 'N', 'P', 'S', 'Z', 'C'].contains k then .ok (none, rest)
        else .error illFormed
      | [] => .error illFormed
    else if c.toNat < 0x80 && !c.isAlphanum && c ≠ '<' && c ≠ '>' then .ok (some c, rest)
    else .error illFormed

def member : List Char → Except String (Option Char × List Char)
  | [] => .error illFormed
  | '\\' :: rest => escape rest
  | c :: rest => .ok (some c, rest)

/-- What follows on the signs that a class of characters may begin with, where a closing bracket
means itself. -/
def classBody (text : List Char) : List Char :=
  let text := match text with
    | '^' :: rest => rest
    | _ => text
  match text with
  | '-' :: _ => text.dropWhile (· = '-')
  | ']' :: rest => rest
  | _ => text

/-- What follows on a class of characters that is open in so many others. -/
def afterClass : Nat → Nat → List Char → Except String (List Char)
  | 0, _, _ | _, _, [] => .error illFormed
  | fuel + 1, others, ']' :: rest =>
    if others = 0 then .ok rest else afterClass fuel (others - 1) rest
  | fuel + 1, others, '[' :: rest => afterClass fuel (others + 1) (classBody rest)
  | fuel + 1, others, text => do
    let (low, rest) ← member text
    match rest with
    | '-' :: c :: more =>
      if c = ']' || c = '-' then afterClass fuel others rest
      else
        match low, ← member (c :: more) with
        | some low, (some high, rest) =>
          if low ≤ high then afterClass fuel others rest else throw illFormed
        | _, _ => throw illFormed
    | _ => afterClass fuel others rest

/-- What follows on an opening parenthesis and the signs that say what it is for, and whether it
opens a group. -/
def group : List Char → Except String (Bool × List Char)
  | '?' :: rest =>
    let named := match rest with
      | 'P' :: '<' :: name | '<' :: name => some name
      | _ => none
    match named with
    | some name =>
      match name.dropWhile (fun c => c.isAlphanum || c = '_' || c = '.'), name with
      | '>' :: rest, c :: _ =>
        if c.isAlpha || c = '_' then .ok (true, rest) else .error illFormed
      | _, _ => .error illFormed
    | none =>
      let flags := rest.takeWhile fun c => ['i', 'm', 's', 'x', 'u', 'U', 'R', '-'].contains c
      let proper := flags.Nodup && flags.getLast? ≠ some '-'
      match rest.drop flags.length with
      | ':' :: rest => if proper then .ok (true, rest) else .error illFormed
      | ')' :: rest => if proper && flags ≠ [] then .ok (false, rest) else .error illFormed
      | _ => .error illFormed
  | rest => .ok (true, rest)

/-- Why what is left of a regular expression is refused, if it is. -/
def refusal? : Nat → Nat → Bool → List Char → Option String
  | 0, _, _, _ => some illFormed
  | _ + 1, groups, _, [] => if groups = 0 then none else some illFormed
  | fuel + 1, groups, repeats, c :: rest =>
    let goOn (groups : Nat) (repeats : Bool) : Except String (List Char) → Option String
      | .ok rest => refusal? fuel groups repeats rest
      | .error why => some why
    if c = '(' then
      match group rest with
      | .ok (opens, rest) => goOn (if opens then groups + 1 else groups) false (.ok rest)
      | .error why => some why
    else if c = ')' then if groups = 0 then some illFormed else goOn (groups - 1) true (.ok rest)
    else if c = '|' then goOn groups false (.ok rest)
    else if c = '*' || c = '+' || c = '?' then
      if repeats then goOn groups true (.ok (if rest.head? = some '?' then rest.tail else rest))
      else some illFormed
    else if c = '\x7b' then some illFormed
    else if c = '[' then goOn groups true (afterClass (rest.length + 1) 0 (classBody rest))
    else if c = '\\' then
      match rest with
      | 'A' :: rest | 'z' :: rest => goOn groups true (.ok rest)
      | 'b' :: rest | 'B' :: rest | '<' :: rest | '>' :: rest =>
        some ((goOn groups true (.ok rest)).getD wordEdge)
      | _ => goOn groups true ((escape rest).map (·.2))
    else goOn groups true (.ok rest)

def refused : Patterns := fun text =>
  if isNumber text.toList then none else refusal? (text.length + 1) 0 false text.toList

example : refused "(" = some illFormed := by decide +kernel

example : refused "+5" = none := by decide +kernel

end Replug.Log.Pattern

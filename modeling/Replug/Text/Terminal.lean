/-!
# What a terminal would show of a text

Complaints about the command line repeat what was typed, but no signs that would steer the
terminal: control characters other than white space are left out, and so are escape sequences.

An escape sequence ends early at white space, which is shown, unless it carries a text.  One that
is still open at the end of the text ends there.
-/

set_option autoImplicit false

namespace Replug.Text

inductive Steering where
  | none
  /-- An escape sequence of which only the escape was seen. -/
  | escape
  /-- An escape sequence that has begun with marks and ends with the first sign that is none. -/
  | marks
  | parameters
  | text
  /-- An escape sequence with a title, which a bell may end as well. -/
  | title
  deriving DecidableEq, Repr

def isLayout (c : Char) : Bool := c = '\t' || c = '\n' || c = '\x0c' || c = '\r'

def isBetween (low high c : Char) : Bool := low ≤ c && c ≤ high

namespace Steering

/-- Whether a sequence carries a text, to which controls belong as well. -/
def isCarrying : Steering → Bool
  | .text | .title => true
  | .none | .escape | .marks | .parameters => false

/-- What a character that is not a control leads to.  Only ASCII means anything in a sequence. -/
def after (c : Char) : Steering → Steering
  | .none => .none
  | .escape =>
    if c = '[' then .parameters
    else if c = ']' then .title
    else if c = 'P' || c = 'X' || c = '^' || c = '_' then .text
    else if isBetween ' ' '/' c then .marks
    else if isBetween '0' '~' c then .none
    else .escape
  | .marks => if isBetween '0' '~' c then .none else .marks
  | .parameters => if isBetween '@' '~' c then .none else .parameters
  | .text => .text
  | .title => .title

end Steering

def shown : Steering → List Char → List Char
  | _, [] => []
  | state, c :: cs =>
    if c = '\x1b' then shown .escape cs
    else if c = '\x18' || c = '\x1a' then shown .none cs
    else if c = '\x07' && state = .title then shown .none cs
    else if c.toNat < 0x20 then
      if isLayout c && !state.isCarrying then c :: shown .none cs else shown state cs
    else if c = '\x7f' then shown state cs
    else if state = .none then c :: shown .none cs
    else shown (state.after c) cs

def forTerminal (s : String) : String := String.ofList (shown .none s.toList)

end Replug.Text

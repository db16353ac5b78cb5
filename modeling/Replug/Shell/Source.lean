import Replug.Shell.Syntax

/-!
# The text of a script while it is read

A reader takes characters from the front of a script and keeps track of the line that it is on.
The text of a document, which starts after the line that asks for it, is taken at once and skipped
when that line ends.

What cannot be read is refused with a complaint and the line at which it was noticed.
-/

set_option autoImplicit false

namespace Replug.Shell

structure Source where
  rest : Text
  line : Nat
  /-- The characters after this line that were taken already. -/
  taken : Nat
  deriving Repr

structure Refusal where
  line : Nat
  complaint : String
  deriving DecidableEq, Repr

abbrev Reader (α : Type) := StateT Source (Except Refusal) α

namespace Source

def start (line : Nat) (script : Text) : Source := ⟨script, line, 0⟩

def lineEnds (t : Text) : Nat := t.count '\n'

/-- The first character and what is left after it.  After a line end the characters that were taken
already are skipped. -/
def pop? (s : Source) : Option (Char × Source) :=
  match s.rest with
  | [] => none
  | c :: cs =>
    if c = '\n' then
      some (c, ⟨cs.drop s.taken, s.line + 1 + lineEnds (cs.take s.taken), 0⟩)
    else some (c, { s with rest := cs })

/-- A text without the line ends that a backslash hides at its front, and how many they were. -/
def joints : Text → Nat × Text
  | '\\' :: '\n' :: cs =>
    let (n, rest) := joints cs
    (n + 1, rest)
  | cs => (0, cs)

def joined (s : Source) : Source :=
  let (n, rest) := joints s.rest
  { s with rest := rest, line := s.line + n }

end Source

namespace Reader

variable {α β : Type}

def refuse (complaint : String) : Reader α := fun s => .error ⟨s.line, complaint⟩

def bare : Reader (Option Char) := fun s =>
  match s.pop? with
  | some (c, s) => .ok (some c, s)
  | none => .ok (none, s)

def next : Reader (Option Char) := fun s => bare s.joined

def peek : Reader (Option Char) := fun s => .ok (s.joined.rest.head?, s)

def takes (c : Char) : Reader Bool := do
  if (← peek) = some c then
    let _ ← next
    return true
  else return false

def ahead (r : Reader α) : Reader α := fun s =>
  match r s with
  | .ok (a, _) => .ok (a, s)
  | .error e => .error e

/-- A step taken at most so many times, as long as it asks for another one. -/
def stepping (step : α → Reader (α ⊕ β)) : Nat → α → Reader β
  | 0, _ => refuse "Script too long"
  | n + 1, a => do
    match ← step a with
    | .inl a => stepping step n a
    | .inr b => return b

/-- A step taken as long as it asks for another one.  Each one but the last takes a character. -/
def steps (step : α → Reader (α ⊕ β)) (a : α) : Reader β := do
  stepping step ((← get).rest.length + 2) a

def nameRest : Reader Text :=
  steps (fun (t : Text) => do
    match ← peek with
    | some c =>
      if isNameChar c then
        let _ ← next
        return .inl (c :: t)
      else return .inr t.reverse
    | none => return .inr t.reverse) []

def withText (r : Reader α) : Reader (α × Text) := fun s =>
  match r s with
  | .ok (a, after) => .ok ((a, s.rest.take (s.rest.length - after.rest.length)), after)
  | .error e => .error e

end Reader

end Replug.Shell

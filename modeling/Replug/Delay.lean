/-!
# Random delays

The delay before a detach is drawn evenly from the whole seconds `0 … k`, both ends included, out
of a stream of 64-bit words.  Scaling one word by `k + 1` and keeping the high half is nearly even;
the low half tells whether a second word could still tip the result, and only then is it taken.

A drawing is a value of its own, `Drawing`: it says which words it wants and what it then settles
on.  It is read from a stream by `Drawing.read`, and inside a run by `Replug.Course.draw`, so both
take the same words.
-/

set_option autoImplicit false

namespace Replug

/-- A computation that may ask for random words before it settles. -/
inductive Drawing (α : Type) where
  | settled (value : α)
  | wants (next : UInt64 → Drawing α)

structure WordStream where
  word : Nat → UInt64
  taken : Nat

namespace WordStream

/-- The stream that repeats the given words for ever; without any, it is all zeros. -/
def cycling (words : List UInt64) : WordStream where
  word i := words.getD (i % words.length) 0
  taken := 0

def next (s : WordStream) : UInt64 × WordStream :=
  (s.word s.taken, { s with taken := s.taken + 1 })

end WordStream

namespace Drawing

/-- A drawing read from a stream: its value, and the stream after the words it took. -/
def read {α : Type} : Drawing α → WordStream → α × WordStream
  | .settled a, s => (a, s)
  | .wants next, s => (next s.next.1).read s.next.2

def map {α β : Type} (f : α → β) : Drawing α → Drawing β
  | .settled a => .settled (f a)
  | .wants next => .wants fun w => (next w).map f

end Drawing

namespace Delay

def wordCount : Nat := UInt64.size

/-- A word scaled to the range below `span`: the whole part of `word · span / 2^64`. -/
def whole (word : UInt64) (span : Nat) : Nat := word.toNat * span / wordCount

def fraction (word : UInt64) (span : Nat) : Nat := word.toNat * span % wordCount

/-- Whether a further word could still carry the scaled word over to the next whole number. -/
def mayCarry (word : UInt64) (span : Nat) : Bool := wordCount - span < fraction word span

def carries (first second : UInt64) (span : Nat) : Bool :=
  wordCount ≤ fraction first span + whole second span

/-- An even drawing from the numbers below `span`, which is at least 1 and less than `2^64`. -/
def below (span : Nat) : Drawing UInt64 :=
  .wants fun first =>
    if mayCarry first span then
      .wants fun second =>
        .settled (.ofNat (whole first span + if carries first second span then 1 else 0))
    else .settled (.ofNat (whole first span))

/-- The seconds to wait, drawn evenly from `0 … longest`.  If no wait is allowed nothing is drawn,
and if every word is a fair answer the first one is the answer. -/
def seconds (longest : UInt64) : Drawing (Option UInt64) :=
  if longest = 0 then .settled none
  else if longest.toNat + 1 = wordCount then .wants fun w => .settled (some w)
  else (below (longest.toNat + 1)).map some

/-- The wait that a drawn number of seconds stands for: there is none for no draw and for zero. -/
def wait? : Option UInt64 → Option UInt64
  | none => none
  | some s => if s = 0 then none else some s

def sample (longest : UInt64) : Drawing (Option UInt64) := (seconds longest).map wait?

end Delay

end Replug

import Replug.Delay
import Replug.Failure
import Replug.Log.Record

/-!
# Courses

A course is everything that a run may come to do, as a tree: at each node the next thing to do,
and for every answer to it the course from there.  Some things are done on the spot (`Act`); others
are calls that have to be waited for (`Call`), and only there can a run be broken off.

A course says nothing about the world it meets.  What happens when it is followed in one is said
in `Replug.Course.Execution`.
-/

set_option autoImplicit false

namespace Replug

inductive Act where
  | note (record : Log.Record)
  | write (line : String)
  | flush
  | word

namespace Act

def Answer : Act → Type
  | .note _ => Unit
  | .write _ => Except IoFault Unit
  | .flush => Except IoFault Unit
  | .word => UInt64

def succeeded : (a : Act) → a.Answer → Bool
  | .note _, _ => true
  | .write _, answer => Except.isOk answer
  | .flush, answer => Except.isOk answer
  | .word, _ => true

end Act

inductive Call where
  | attach (remote busId : String)
  | pause (seconds : UInt64)
  | detach
  deriving DecidableEq, Repr

namespace Call

def Answer : Call → Type
  | .attach _ _ => Except Failure Unit
  | .pause _ => Unit
  | .detach => Except Failure Unit

def succeeded : (c : Call) → c.Answer → Bool
  | .attach _ _, answer => Except.isOk answer
  | .pause _, _ => true
  | .detach, answer => Except.isOk answer

end Call

/-- Everything that a run may come to do, until it finishes with a result. -/
inductive Course (ρ : Type) where
  | finished (result : ρ)
  | act (a : Act) (next : a.Answer → Course ρ)
  | await (c : Call) (next : c.Answer → Course ρ)

namespace Course

def bind {α β : Type} : Course α → (α → Course β) → Course β
  | .finished a, f => f a
  | .act a next, f => .act a fun answer => (next answer).bind f
  | .await c next, f => .await c fun answer => (next answer).bind f

instance : Monad Course where
  pure := .finished
  bind := bind

/-- A drawing made inside a run: each word it wants is taken as an act. -/
def draw {α : Type} : Drawing α → Course α
  | .settled a => .finished a
  | .wants next => .act .word fun w => draw (next w)

end Course

/-- A course that ends at its first failure. -/
abbrev Session := ExceptT Failure Course

namespace Session

def note (record : Log.Record) : Session Unit :=
  ExceptT.mk (.act (.note record) fun _ => .finished (.ok ()))

def write (line : String) : Session Unit :=
  ExceptT.mk (.act (.write line) fun (answer : Except IoFault Unit) =>
    .finished (answer.mapError .io))

def flush : Session Unit :=
  ExceptT.mk (.act .flush fun (answer : Except IoFault Unit) => .finished (answer.mapError .io))

def draw {α : Type} (d : Drawing α) : Session α := ExceptT.lift (Course.draw d)

def attach (remote busId : String) : Session Unit :=
  ExceptT.mk (.await (.attach remote busId) fun answer => .finished answer)

def pause (seconds : UInt64) : Session Unit :=
  ExceptT.mk (.await (.pause seconds) fun _ => .finished (.ok ()))

def detach : Session Unit :=
  ExceptT.mk (.await .detach fun answer => .finished answer)

end Session

end Replug

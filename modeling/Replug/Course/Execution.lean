import Replug.Course

/-!
# Executions

Following a course in a world.  A world answers acts at once and turns each call into a flight,
which returns, is suspended and polled again, or never returns.

A run may be accompanied by a shutdown.  At every poll either side may be asked first.  The run,
when asked, goes on until it is suspended again or has finished; the shutdown, when asked and
there, ends everything, and the call in flight is dropped.

`Course.execute` gives the trace of what was done, how it ended and the world left behind.
-/

set_option autoImplicit false

namespace Replug

inductive Flight (α σ : Type) where
  | returned (answer : α) (world : σ)
  /-- The call is not done; this is the world until the next poll, and the call from there. -/
  | suspended (world : σ) (next : Flight α σ)
  /-- The call will never return. -/
  | stuck (world : σ)

/-- A flight as a larger world sees it: what that world looks like while the call is under way, and
what the answer means there. -/
def Flight.map {α β σ τ : Type} (meanwhile : σ → τ) (after : α → σ → β × τ) :
    Flight α σ → Flight β τ
  | .returned answer s => .returned (after answer s).1 (after answer s).2
  | .suspended s next => .suspended (meanwhile s) (next.map meanwhile after)
  | .stuck s => .stuck (meanwhile s)

def Flight.answer? {α σ : Type} : Flight α σ → Option (α × σ)
  | .returned answer s => some (answer, s)
  | .suspended _ next => next.answer?
  | .stuck _ => none

structure World (σ : Type) where
  act : (a : Act) → σ → a.Answer × σ
  call : (c : Call) → σ → Flight c.Answer σ

/-- When the request to shut down is seen, and which side is asked first. -/
structure Shutdown (σ : Type) where
  /-- Whether the request is there at a poll, in the world as it then is.  The first poll is
  poll 0, before the run has done anything. -/
  arrived : Nat → σ → Bool
  /-- Whether the request is asked for before the run goes on. -/
  askedFirst : Nat → Bool
  /-- Whether the request comes while a call never returns. -/
  breaksStuck : σ → Bool

def Shutdown.never {σ : Type} : Shutdown σ where
  arrived _ _ := false
  askedFirst _ := false
  breaksStuck _ := false

def Shutdown.within {σ τ : Type} (part : τ → σ) (shutdown : Shutdown σ) : Shutdown τ where
  arrived poll t := shutdown.arrived poll (part t)
  askedFirst := shutdown.askedFirst
  breaksStuck t := shutdown.breaksStuck (part t)

inductive Happening where
  /-- An act was done, and whether it came off. -/
  | did (a : Act) (ok : Bool)
  | began (c : Call)
  /-- A call returned, and whether it came off. -/
  | ended (c : Call) (ok : Bool)

inductive Ending (ρ : Type) where
  | finished (result : ρ)
  | interrupted
  /-- It waits for ever. -/
  | hung

structure Execution (ρ σ : Type) where
  trace : List Happening
  ending : Ending ρ
  world : σ

/-- The state of the polling: which poll this is, and whether the shutdown is to be asked when the
run is suspended next. -/
structure Polling where
  poll : Nat
  pending : Bool

/-- What becomes of a flight when a shutdown may come first. -/
inductive Landing (α σ : Type) where
  | returned (answer : α) (world : σ) (polling : Polling)
  | dropped (world : σ)
  | stuck (world : σ)

def Flight.land {α σ : Type} (shutdown : Shutdown σ) : Flight α σ → Polling → Landing α σ
  | .returned answer s, p => .returned answer s p
  | .stuck s, p => if p.pending || shutdown.breaksStuck s then .dropped s else .stuck s
  | .suspended s next, p =>
    if p.pending then .dropped s
    else
      let here := p.poll + 1
      if shutdown.arrived here s && shutdown.askedFirst here then .dropped s
      else next.land shutdown ⟨here, shutdown.arrived here s⟩

namespace Course

/-- The course followed from the middle of a run; `done` is what was done before, latest first. -/
def follow {ρ σ : Type} (world : World σ) (shutdown : Shutdown σ) :
    Course ρ → Polling → σ → List Happening → Execution ρ σ
  | .finished r, _, s, done => ⟨done.reverse, .finished r, s⟩
  | .act a next, p, s, done =>
    let (answer, s) := world.act a s
    (next answer).follow world shutdown p s (.did a (a.succeeded answer) :: done)
  | .await c next, p, s, done =>
    match (world.call c s).land shutdown p with
    | .returned answer s p =>
      (next answer).follow world shutdown p s
        (.ended c (c.succeeded answer) :: .began c :: done)
    | .dropped s => ⟨(Happening.began c :: done).reverse, .interrupted, s⟩
    | .stuck s => ⟨(Happening.began c :: done).reverse, .hung, s⟩

def execute {ρ σ : Type} (course : Course ρ) (world : World σ) (shutdown : Shutdown σ) (s : σ) :
    Execution ρ σ :=
  let there := shutdown.arrived 0 s
  if there && shutdown.askedFirst 0 then ⟨[], .interrupted, s⟩
  else course.follow world shutdown ⟨0, there⟩ s []

end Course

namespace Happening

def record? : Happening → Option Log.Record
  | .did (.note record) _ => some record
  | .did _ _ | .began _ | .ended _ _ => none

/-- The call left in flight by a happening, given the one in flight before. -/
def inFlight (before : Option Call) : Happening → Option Call
  | .began c => some c
  | .ended _ _ => none
  | .did _ _ => before

end Happening

namespace Execution

def note {ρ σ : Type} (world : World σ) (record : Log.Record) (e : Execution ρ σ) :
    Execution ρ σ :=
  { e with
    trace := e.trace ++ [.did (.note record) true]
    world := (world.act (.note record) e.world).2 }

def log {ρ σ : Type} (e : Execution ρ σ) : List Log.Record := e.trace.filterMap Happening.record?

/-- The call that was started last and never returned. -/
def dropped? {ρ σ : Type} (e : Execution ρ σ) : Option Call :=
  e.trace.foldl Happening.inFlight none

end Execution

end Replug

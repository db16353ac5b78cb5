import Replug.Course.Execution

/-!
# The attach and detach cycle

Each cycle counts on a line of its own, attaches the device, waits a random while if the plan
allows for one, and detaches everything again.  `Cycle.session` is the whole run as a course: any
failure ends it on the spot.

`Cycle.runUntil` follows it beside a shutdown.  When the shutdown is what ends it, the run is
left where it stands, with nothing but a note in the log.
-/

set_option autoImplicit false

namespace Replug

structure Plan where
  /-- The host that has the device. -/
  remote : String
  /-- The device on that host. -/
  busId : String
  /-- The longest wait before a detach, in seconds. -/
  maxDelay : UInt64
  program : Path
  count : UInt64
  deriving DecidableEq, Repr

structure Summary where
  iterations : Nat
  /-- The cycles in which there was a wait. -/
  sleeps : Nat
  deriving DecidableEq, Repr

namespace Cycle

def line (iteration : Nat) : String := "#" ++ toString iteration ++ "\n"

def starting (plan : Plan) : Log.Record where
  level := .info
  source := .cycle
  message := "Cycling " ++ plan.busId ++ " on " ++ plan.remote ++ " via " ++
    plan.program.display ++ " (" ++ toString plan.count ++ " iterations, max delay " ++
    toString plan.maxDelay ++ "s)"
  fields := []

def waiting (iteration : Nat) (seconds : UInt64) : Log.Record where
  level := .debug
  source := .cycle
  message := "Waiting before detach"
  fields := [("iteration", iteration), ("delay_secs", seconds.toNat)]

def notWaiting (iteration : Nat) : Log.Record where
  level := .debug
  source := .cycle
  message := "Detaching without delay"
  fields := [("iteration", iteration)]

def completed (summary : Summary) : Log.Record where
  level := .info
  source := .cycle
  message := "Completed " ++ toString summary.iterations ++ " iterations (" ++
    toString summary.sleeps ++ " with a delay)"
  fields := []

def leaving : Log.Record where
  level := .debug
  source := .cycle
  message := "Shutdown requested, leaving loop"
  fields := []

/-- The wait of one cycle, noted in the log before it is made. -/
def rest (iteration : Nat) : Option UInt64 → Session Unit
  | some seconds => do
    Session.note (waiting iteration seconds)
    Session.pause seconds
  | none => Session.note (notWaiting iteration)

/-- One cycle.  Its value tells whether there was a wait. -/
def once (plan : Plan) (iteration : Nat) : Session Bool := do
  Session.write (line iteration)
  Session.flush
  Session.attach plan.remote plan.busId
  let wait ← Session.draw (Delay.sample plan.maxDelay)
  rest iteration wait
  Session.detach
  return wait.isSome

/-- The cycles still to be made after those that the summary counts. -/
def cycles (plan : Plan) : Nat → Summary → Session Summary
  | 0, summary => return summary
  | left + 1, summary => do
    let iteration := summary.iterations + 1
    let waited ← once plan iteration
    cycles plan left ⟨iteration, summary.sleeps + if waited then 1 else 0⟩

def session (plan : Plan) : Session Summary := do
  Session.note (starting plan)
  let summary ← cycles plan plan.count.toNat ⟨0, 0⟩
  Session.note (completed summary)
  return summary

/-- The result of a run that a shutdown may have ended. -/
def result : Ending (Except Failure Summary) → Option (Except Failure Summary)
  | .finished r => some r
  | .interrupted => some (.error .interrupted)
  | .hung => none

/-- The run beside a shutdown.  When the shutdown is what ended it, that is noted. -/
def runUntil {σ : Type} (plan : Plan) (world : World σ) (shutdown : Shutdown σ) (s : σ) :
    Execution (Except Failure Summary) σ :=
  let e := (session plan).run.execute world shutdown s
  match e.ending with
  | .interrupted => e.note world leaving
  | .finished _ | .hung => e

def run {σ : Type} (plan : Plan) (world : World σ) (s : σ) :
    Execution (Except Failure Summary) σ :=
  runUntil plan world Shutdown.never s

end Cycle

end Replug

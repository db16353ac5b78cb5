import Replug.Cycle

/-!
# Rehearsals

A world in which everything is laid down beforehand: which calls take how long, hang or fail, how
much the sink for the progress lines takes, and when a shutdown comes.  Time is counted in
milliseconds and passes only while a call is waited for, so a rehearsal of hours takes no time and
always goes the same way.

`Rehearsal.perform` runs a plan any number of times in one such world, which goes on from run to
run.
-/

set_option autoImplicit false

namespace Replug.Rehearsal

structure Cue where
  /-- The call it is for, counted from 1 over all runs. -/
  call : Nat
  milliseconds : Nat
  /-- Whether it never returns after that. -/
  hangs : Bool
  /-- How it fails, if it does. -/
  failure : Option Failure

structure Script where
  attach : List Cue
  detach : List Cue
  /-- The pause that never ends, counted from 1 over all runs. -/
  endlessPause : Option Nat
  /-- The bytes that the sink takes in all. -/
  capacity : Option Nat
  /-- Whether a full sink takes nothing and says so, rather than failing. -/
  takesNothing : Bool
  /-- The flush that fails, counted from 1 over all runs. -/
  failingFlush : Option Nat

/-- When the shutdown of a run comes. -/
inductive Bell where
  | never
  | onHang
  /-- A while after the start of the run, in milliseconds. -/
  | after (milliseconds : Nat)
  deriving DecidableEq, Repr

inductive Scene where
  | flush (text : Bytes)
  | attach (remote busId : String)
  | pause (seconds : UInt64)
  | detach
  deriving DecidableEq, Repr

structure Stage where
  /-- The milliseconds since the start of the first run. -/
  clock : Nat
  /-- When the call that is waited for returns. -/
  wake : Nat
  words : WordStream
  attaches : Nat
  pauses : Nat
  detaches : Nat
  flushes : Nat
  /-- The bytes that the sink took, the latest first. -/
  written : Bytes
  /-- Those of them that were not flushed, the latest first. -/
  unflushed : Bytes
  /-- The scenes seen and when, the latest first. -/
  scenes : List (Nat × Scene)

namespace Stage

def opening (words : WordStream) : Stage :=
  ⟨0, 0, words, 0, 0, 0, 0, [], [], []⟩

def see (s : Stage) (scene : Scene) : Stage :=
  { s with scenes := (s.clock, scene) :: s.scenes }

end Stage

def Script.refusal (script : Script) : IoFault :=
  if script.takesNothing then .described .writeZero "failed to write whole buffer"
  else .described .other "sink is full"

/-- A text offered to the sink, which takes as much as it has room for. -/
def Script.write (script : Script) (line : String) (s : Stage) : Except IoFault Unit × Stage :=
  let bytes := Bytes.ofString line
  let taken := match script.capacity with
    | none => bytes
    | some room => bytes.take (room - s.written.length)
  let s := { s with
    written := taken.reverse ++ s.written
    unflushed := taken.reverse ++ s.unflushed }
  (if taken.length < bytes.length then .error script.refusal else .ok (), s)

def Script.flush (script : Script) (s : Stage) : Except IoFault Unit × Stage :=
  let s := s.see (.flush s.unflushed.reverse)
  let s := { s with flushes := s.flushes + 1, unflushed := [] }
  (if script.failingFlush = some s.flushes then .error (.described .other "flush failed")
    else .ok (), s)

/-- The farthest that a wait can reach, in milliseconds: thirty years of 365 days. -/
def farthest : Nat := 30 * 365 * 86400 * 1000

def Stage.wait {α : Type} (s : Stage) (milliseconds : Nat) (next : Stage → Flight α Stage) :
    Flight α Stage :=
  if milliseconds = 0 then next s
  else
    let wake := s.clock + min milliseconds farthest
    .suspended { s with wake := wake } (next { s with clock := wake })

def Stage.client (s : Stage) (cues : List Cue) (call : Nat) :
    Flight (Except Failure Unit) Stage :=
  match cues.find? fun cue => cue.call == call with
  | none => .returned (.ok ()) s
  | some cue => s.wait cue.milliseconds fun s =>
    if cue.hangs then .stuck s
    else match cue.failure with
      | some failure => .returned (.error failure) s
      | none => .returned (.ok ()) s

def Script.world (script : Script) : World Stage where
  act
    | .note _, s => ((), s)
    | .write line, s => script.write line s
    | .flush, s => script.flush s
    | .word, s => (s.words.next.1, { s with words := s.words.next.2 })
  call
    | .attach remote busId, s =>
      let s := { s.see (.attach remote busId) with attaches := s.attaches + 1 }
      s.client script.attach s.attaches
    | .pause seconds, s =>
      let s := { s.see (.pause seconds) with pauses := s.pauses + 1 }
      if script.endlessPause = some s.pauses then .stuck s
      else s.wait (seconds.toNat * 1000) fun s => .returned () s
    | .detach, s =>
      let s := { s.see .detach with detaches := s.detaches + 1 }
      s.client script.detach s.detaches

def Bell.time? (bell : Bell) (start : Nat) : Option Nat :=
  match bell with
  | .never | .onHang => none
  | .after milliseconds => some (start + min milliseconds farthest)

def Bell.shutdown (bell : Bell) (start : Nat) : Shutdown Stage where
  arrived poll s := match bell.time? start with
    | none => false
    | some time => if poll = 0 then time = start else time < s.wake
  askedFirst _ := true
  breaksStuck _ := match bell with
    | .never => false
    | .onHang | .after _ => true

/-- The stage after a run.  A shutdown after some time is also what the clock then shows. -/
def Bell.close (bell : Bell) (start : Nat) (ending : Ending (Except Failure Summary)) (s : Stage) :
    Stage :=
  match bell.time? start, ending with
  | some time, .interrupted => { s with clock := time }
  | _, _ => s

def once (plan : Plan) (script : Script) (bell : Bell) (s : Stage) :
    Execution (Except Failure Summary) Stage :=
  let e := Cycle.runUntil plan script.world (bell.shutdown s.clock) s
  { e with world := bell.close s.clock e.ending e.world }

def perform (plan : Plan) (script : Script) (bell : Bell) :
    Nat → Stage → List (Execution (Except Failure Summary) Stage)
  | 0, _ => []
  | runs + 1, s =>
    let e := once plan script bell s
    e :: perform plan script bell runs e.world

end Replug.Rehearsal

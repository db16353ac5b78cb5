import Replug.Client
import Replug.Course.Execution
import Replug.Files

/-!
# Machines

What the program finds on the machine that it runs on: an output and a place for complaints, files,
random words, a clock, and a way to start programs.  Everything may fail, and a program that was started may take its
time or never end.

A `Station` is a machine together with all that this program did there.  Clients act on the
machine only, so what a station has noted down is beyond their reach.

`Machine.perform` is an order carried out by a client: progress that is still held back goes out
first, the client's complaints are led to the same output, and its exit is noted and not looked at.
-/

set_option autoImplicit false

namespace Replug

structure Machine (σ : Type) where
  write : String → σ → Except IoFault Unit × σ
  flush : σ → Except IoFault Unit × σ
  complain : String → σ → Except IoFault Unit × σ
  word : σ → UInt64 × σ
  pause : UInt64 → σ → Flight Unit σ
  share : σ → Except IoFault Unit × σ
  launch : Client.Launch → σ → Flight (Except IoFault Client.Status) σ
  /-- The files that are there. -/
  files : σ → Files
  withFiles : Files → σ → σ
  shutdown : Shutdown σ

/-- A machine and what this program did there, the latest first. -/
structure Station (σ : Type) where
  machine : σ
  written : List String
  /-- The clients that it started or tried to start. -/
  launches : List Client.Launch
  log : List Log.Record

namespace Station

def fresh {σ : Type} (machine : σ) : Station σ := ⟨machine, [], [], []⟩

def note {σ : Type} (s : Station σ) (record : Log.Record) : Station σ :=
  { s with log := record :: s.log }

end Station

namespace Machine

variable {σ : Type}

/-- A text written to the output.  What was not taken was not written. -/
def print (m : Machine σ) (text : String) (s : Station σ) : Except IoFault Unit × Station σ :=
  match m.write text s.machine with
  | (.ok (), state) => (.ok (), { s with machine := state, written := text :: s.written })
  | (.error fault, state) => (.error fault, { s with machine := state })

def warn (m : Machine σ) (complaint : Option String) (s : Station σ) :
    Except IoFault Unit × Station σ :=
  match complaint with
  | none => (.ok (), s)
  | some line =>
    ((m.complain line s.machine).1, { s with machine := (m.complain line s.machine).2 })

def conclude (program : Path) (order : Client.Order) (s : Station σ) :
    Except IoFault Client.Status → σ → Except Failure Unit × Station σ
  | .ok status, state =>
    (.ok (), { s with machine := state, log := Client.exited order status :: s.log })
  | .error fault, state =>
    (.error (Client.launchFailure program order fault), { s with machine := state })

def perform (m : Machine σ) (program : Path) (order : Client.Order) (s : Station σ) :
    Flight (Except Failure Unit) (Station σ) :=
  match m.flush s.machine with
  | (.error fault, state) => .returned (.error (.io fault)) { s with machine := state }
  | (.ok (), state) =>
    match m.share state with
    | (.error fault, state) =>
      .returned (.error (Client.launchFailure program order fault)) { s with machine := state }
    | (.ok (), state) =>
      let launch := order.launch program
      let s := { s with launches := launch :: s.launches }
      (m.launch launch state).map (fun state => { s with machine := state })
        (conclude program order s)

def world (m : Machine σ) (program : Path) : World (Station σ) where
  act
    | .note record, s => ((), s.note record)
    | .write line, s => m.print line s
    | .flush, s => ((m.flush s.machine).1, { s with machine := (m.flush s.machine).2 })
    | .word, s => ((m.word s.machine).1, { s with machine := (m.word s.machine).2 })
  call
    | .attach remote busId, s => m.perform program (.attach remote busId) s
    | .pause seconds, s =>
      (m.pause seconds s.machine).map (fun state => { s with machine := state })
        fun _ state => ((), { s with machine := state })
    | .detach, s => m.perform program .detach s

end Machine

end Replug

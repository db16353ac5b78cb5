import Replug.CommandLine.Usage
import Replug.Cycle
import Replug.Failure.Report
import Replug.Log.Setup
import Replug.Machine
import Replug.Settings.Store

/-!
# The program

One call of the program from its arguments to its exit.  Arguments that lead to no run are
answered at once.  Otherwise the default settings are saved if that is asked for, or else settings
are loaded, the log is set up, and the cycle is run until it is done, fails or is interrupted.

A failure is reported once, on the output, and the exit is one of success all the same; only
refused arguments give another status.  There is no exit if the program waits for ever or breaks off,
which it does when it cannot say what it has to say outside the log.
-/

set_option autoImplicit false

namespace Replug.Program

inductive Result where
  | done
  | failed (report : Report)
  | waiting
  | broken

structure Attempt (σ : Type) where
  result : Result
  /-- What was complained about before the log was set up. -/
  complaint : Option String
  filter : Log.State
  station : Station σ

structure Outcome (σ : Type) where
  /-- The exit status; there is none when the program waits for ever or breaks off. -/
  exit : Option Nat
  complaints : List String
  filter : Log.State
  station : Station σ

namespace Outcome

variable {σ : Type}

def shown (o : Outcome σ) : List Log.Record := o.filter.shown o.station.log.reverse

def errorLines (o : Outcome σ) : List String := o.complaints ++ o.shown.map Log.Record.line

def written (o : Outcome σ) : String := String.join o.station.written.reverse

end Outcome

def greeting : Log.Record where
  level := .info
  source := .program
  message := "usbip-attach-loop v" ++ CommandLine.versionNumber
  fields := []

/-- The settings to start from, and the complaint about those that could not be used.  A file that
is asked for must be usable. -/
def settingsFor (env : Environment) (files : Files) :
    Option Path → Option (Except Report (Settings × Option String))
  | some path =>
    (Settings.load env files (some path)).map fun
      | .ok loaded => .ok (loaded.settings, none)
      | .error fault => .error (fault.report.remark "Failed to load configuration")
  | none =>
    (Settings.loadOrDefault env files).map fun (loaded, complaint) =>
      .ok (loaded.settings, complaint.map fun report => "Config: " ++ report.message)

def levelFor (args : CommandLine.Arguments) (settings : Settings) : String :=
  args.logLevel.getD settings.logLevel

variable {σ : Type}

def saveDefaults (m : Machine σ) (env : Environment) (s : Station σ) : Attempt σ :=
  let path := Settings.userFile env
  let (saved, files) := Settings.default.save path (m.files s.machine)
  let s := { s with machine := m.withFiles files s.machine }
  match saved with
  | none => ⟨.waiting, none, none, s⟩
  | some (.error fault) =>
    ⟨.failed (fault.report.remark "Failed to save configuration"), none, none, s⟩
  | some (.ok ()) =>
    match m.print ("Configuration saved to: " ++ path.display ++ "\n") s with
    | (.error _, s) => ⟨.broken, none, none, s⟩
    | (.ok (), s) => ⟨.done, none, none, s⟩

def cycle (m : Machine σ) (plan : Plan) (s : Station σ) : Result × Station σ :=
  let e := Cycle.runUntil plan (m.world plan.program) (m.shutdown.within Station.machine) s
  match Cycle.result e.ending with
  | none => (.waiting, e.world)
  | some (.ok _) => (.done, e.world)
  | some (.error failure) => (.failed (.ofFailure failure), e.world)

variable (patterns : Log.Patterns)

def start (m : Machine σ) (env : Environment) (args : CommandLine.Arguments) (settings : Settings)
    (complaint : Option String) (s : Station σ) : Attempt σ :=
  match Log.setup patterns env.logFilter (levelFor args settings) none with
  | (none, filter) => ⟨.broken, complaint, filter, s⟩
  | (some (.error failure), filter) =>
    ⟨.failed ((Report.ofFailure failure).remark "Failed to setup logging"), complaint, filter, s⟩
  | (some (.ok ()), filter) =>
    let s := s.note greeting
    match Plan.resolve env.homeDirectory args.remote args.busId args.overrides settings with
    | .error lack => ⟨.failed (.ofWords lack.message), complaint, filter, s⟩
    | .ok plan =>
      let (result, s) := cycle m plan s
      ⟨result, complaint, filter, s⟩

def attempt (m : Machine σ) (env : Environment) (args : CommandLine.Arguments) (s : Station σ) :
    Attempt σ :=
  if args.saveConfig then saveDefaults m env s
  else
    match settingsFor env (m.files s.machine) args.config with
    | none => ⟨.waiting, none, none, s⟩
    | some (.error report) => ⟨.failed report, none, none, s⟩
    | some (.ok (settings, complaint)) =>
      match m.warn complaint s with
      | (.error _, s) => ⟨.broken, none, none, s⟩
      | (.ok (), s) => start patterns m env args settings complaint s

/-- The exit, after a report if there is something to report. -/
def finish (m : Machine σ) (a : Attempt σ) : Outcome σ :=
  let leave (exit : Option Nat) (s : Station σ) : Outcome σ := ⟨exit, a.complaint.toList, a.filter, s⟩
  match a.result with
  | .waiting | .broken => leave none a.station
  | .done => leave (some 0) a.station
  | .failed report =>
    match report.termination with
    | .cancelled => leave (some Termination.cancelled.exitStatus) a.station
    | .failed message =>
      match m.print (message ++ "\n") a.station with
      | (.error _, s) => leave none s
      | (.ok (), s) => leave (some (Termination.failed message).exitStatus) s

/-- The answer to arguments that lead to no run: on the output if it was asked for. -/
def refuse (m : Machine σ) (r : CommandLine.Refusal) (s : Station σ) : Outcome σ :=
  if r.isRequest then ⟨some r.exitStatus, [], none, (m.print (r.text ++ "\n") s).2⟩
  else ⟨some r.exitStatus, [r.text], none, s⟩

def run (m : Machine σ) (env : Environment) (args : List Bytes) (state : σ) : Outcome σ :=
  let s := Station.fresh state
  match CommandLine.Arguments.parse args with
  | .error r => refuse m r s
  | .ok args => finish m (attempt patterns m env args s)

end Replug.Program

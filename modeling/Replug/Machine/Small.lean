import Replug.Machine
import Replug.Settings.Store
import Replug.Shell.Run

/-!
# A small machine

A machine with the files and tools of the small system.  Its output takes everything, its pauses
take no time, and the programs on it are scripts and tools, which are run to their end or to the
moment at which they are stopped.

The operator's request to stop is a signal that a script may send to whoever started it.  It is
seen while the client sleeps, or else when the client has ended.
-/

set_option autoImplicit false

namespace Replug

structure SmallMachine where
  files : Files
  /-- The bytes of the output, the latest first. -/
  output : Bytes
  /-- The signals that this program was sent, the latest first. -/
  signals : List Nat
  words : WordStream

namespace SmallMachine

def ofFiles (files : Files) (words : List UInt64) : SmallMachine :=
  ⟨files, [], [], .cycling words⟩

def interruptSignal : Nat := 2

/-- The signals that this program outlives: besides the usual ones the request to stop, which it
waits for, and the one for an output that nobody reads. -/
def outlived : List Nat := 0 :: interruptSignal :: 13 :: Client.harmlessSignals

/-- The machine at a moment of a client that was started on it. -/
def seen (s : SmallMachine) (m : Shell.Moment) : SmallMachine :=
  { s with
    files := { m.files with workingDirectory := s.files.workingDirectory }
    output := m.said ++ s.output, signals := m.callerSignals ++ s.signals }

/-- A client under way: it can be stopped whenever it slept, and once more when it has ended. -/
def underWay (s : SmallMachine) (after : Shell.State) :
    Flight (Except IoFault Client.Status) SmallMachine :=
  let last := s.seen after.now
  let landing : Flight (Except IoFault Client.Status) SmallMachine :=
    if last.signals.any fun n => !outlived.contains n then .stuck last
    else .suspended last (.returned (.ok after.outcome) last)
  after.moments.foldl (fun flight m => .suspended (s.seen m) flight) landing

def zeroByteFault : IoFault := .described .invalidInput "nul byte found in provided data"

def launch (env : Environment) (l : Client.Launch) (s : SmallMachine) :
    Flight (Except IoFault Client.Status) SmallMachine :=
  let args := l.arguments.map Bytes.ofString
  if (l.program.bytes :: args).any (·.contains 0) then .returned (.error zeroByteFault) s
  else
    match s.files.start env.searchPath l.program args with
    | .error code => .returned (.error (.system code)) s
    | .ok image =>
      let known := env.pairs.map fun (name, value) =>
        (Shell.Text.ofBytes name, Shell.Text.ofBytes value)
      s.underWay (Shell.run image (.start s.files known))

def machine (env : Environment) : Machine SmallMachine where
  write text s := (.ok (), { s with output := (Bytes.ofString text).reverse ++ s.output })
  flush s := (.ok (), s)
  complain _ s := (.ok (), s)
  word s := (s.words.next.1, { s with words := s.words.next.2 })
  pause _ s := .suspended s (.returned () s)
  share s := (.ok (), s)
  launch := launch env
  files := SmallMachine.files
  withFiles files s := { s with files := files }
  shutdown :=
    { arrived := fun _ s => s.signals.contains interruptSignal
      askedFirst := fun _ => true
      breaksStuck := fun _ => false }

end SmallMachine

end Replug

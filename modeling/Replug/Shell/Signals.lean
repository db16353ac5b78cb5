import Replug.Shell.State

/-!
# Signals

What becomes of a signal that a script sends: to itself, to those who called it, or to a program
that it started and did not wait for.  A signal ends a script that has not arranged for something
else.
-/

set_option autoImplicit false

namespace Replug.Shell

def signalBound : Nat := 65

/-- The signal that a name without the usual beginning or a number stands for.  `least` is 0 where
the end of a script counts as one. -/
def signalOf? (least : Nat) (t : Text) : Option Nat :=
  match natural? t with
  | some n => if n < signalBound then some n else none
  | none =>
    let name := String.ofList (t.map Char.toUpper)
    if least = 0 && name = "EXIT" then some 0
    else if name = "RTMIN" then some 34
    else if name = "RTMAX" then some 64
    else (Client.signalNames.find? fun s => s.2 = "SIG" ++ name).map (·.1)

def certainSignals : List Nat := [9, 19]

namespace State

def receives (s : State) (signal : Nat) : State :=
  match if certainSignals.contains signal then none else s.traps.lookup signal with
  | some [] => s
  | some _ => { s with pending := s.pending ++ [signal] }
  | none =>
    if signal = 0 || Client.harmlessSignals.contains signal then s
    else { s with leaving := some (.killed signal) }

def sends? (s : State) (signal : Nat) (target : Int) : Option State :=
  let number := target.toNat
  if target < 1 then none
  else if number = programNumber then
    some { s with now := { s.now with callerSignals := signal :: s.now.callerSignals } }
  else if number = s.own && !s.isApart then some (s.receives signal)
  else if number ≤ s.own then some { s with struck := (number, signal) :: s.struck }
  else if (s.jobs.lookup number).isSome then
    some { s with
      jobs := s.jobs.map fun j => if j.1 = number then (number, .signal signal) else j }
  else none

/-- The state after the signals that its own programs have sent to it. -/
def struckNow (s : State) : State :=
  if s.isApart then s
  else
    let (mine, others) := s.struck.partition fun e => e.1 = s.own
    mine.reverse.foldl (fun s e => s.receives e.2) { s with struck := others }

end State

def signalPhrase? (signal : Nat) : Option String :=
  match signal with
  | 1 => some "Hangup"
  | 3 => some "Quit"
  | 4 => some "Illegal instruction"
  | 5 => some "Trace/breakpoint trap"
  | 6 => some "Aborted"
  | 7 => some "Bus error"
  | 8 => some "Floating point exception"
  | 9 => some "Killed"
  | 10 => some "User defined signal 1"
  | 11 => some "Segmentation fault"
  | 12 => some "User defined signal 2"
  | 14 => some "Alarm clock"
  | 15 => some "Terminated"
  | 16 => some "Stack fault"
  | 24 => some "CPU time limit exceeded"
  | 25 => some "File size limit exceeded"
  | 26 => some "Virtual timer expired"
  | 27 => some "Profiling timer expired"
  | 29 => some "I/O possible"
  | 30 => some "Power failure"
  | 31 => some "Bad system call"
  | n => if 34 ≤ n then some ("Real-time signal " ++ toString (n - 34)) else none

end Replug.Shell

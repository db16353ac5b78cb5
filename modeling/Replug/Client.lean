import Replug.Failure
import Replug.Log.Record

/-!
# The usbip client

The client is a program of its own that understands two orders: attach one device of a remote
host, and detach all devices.  How it exits is noted and never looked at; only a client that
cannot be started or waited for is a failure.
-/

set_option autoImplicit false

namespace Replug.Client

inductive Order where
  | attach (remote busId : String)
  | detach
  deriving DecidableEq, Repr

namespace Order

def action : Order → String
  | .attach _ _ => "attach"
  | .detach => "detach"

/-- The arguments that convey the order.  Host and bus id are one argument each, as they are. -/
def arguments : Order → List String
  | .attach remote busId => ["attach", "--remote", remote, "--bus-id", busId]
  | .detach => ["detach", "--all"]

end Order

structure Launch where
  program : Path
  arguments : List String
  deriving DecidableEq, Repr

def Order.launch (order : Order) (program : Path) : Launch := ⟨program, order.arguments⟩

inductive Status where
  | code (n : Nat)
  | signal (n : Nat)
  deriving DecidableEq, Repr

def signalNames : List (Nat × String) := [
  (1, "SIGHUP"), (2, "SIGINT"), (3, "SIGQUIT"), (4, "SIGILL"), (5, "SIGTRAP"), (6, "SIGABRT"),
  (7, "SIGBUS"), (8, "SIGFPE"), (9, "SIGKILL"), (10, "SIGUSR1"), (11, "SIGSEGV"),
  (12, "SIGUSR2"), (13, "SIGPIPE"), (14, "SIGALRM"), (15, "SIGTERM"), (16, "SIGSTKFLT"),
  (17, "SIGCHLD"), (18, "SIGCONT"), (19, "SIGSTOP"), (20, "SIGTSTP"), (21, "SIGTTIN"),
  (22, "SIGTTOU"), (23, "SIGURG"), (24, "SIGXCPU"), (25, "SIGXFSZ"), (26, "SIGVTALRM"),
  (27, "SIGPROF"), (28, "SIGWINCH"), (29, "SIGIO"), (30, "SIGPWR"), (31, "SIGSYS")]

/-- The signals that a program outlives unless it has arranged for something else: an ended child,
the order to go on, urgent data, and a window of another size. -/
def harmlessSignals : List Nat := [17, 18, 23, 28]

def Status.text : Status → String
  | .code n => "exit status: " ++ toString n
  | .signal n =>
    "signal: " ++ toString n ++
      match signalNames.lookup n with
      | some name => " (" ++ name ++ ")"
      | none => ""

def exited (order : Order) (status : Status) : Log.Record where
  level := .debug
  source := .client
  message := "usbip " ++ order.action ++ " exited with " ++ status.text
  fields := []

def launchFailure (program : Path) (order : Order) (cause : IoFault) : Failure :=
  .launch program order.action cause

end Replug.Client

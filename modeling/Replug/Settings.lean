import Replug.Path

/-!
# Settings

The settings that a configuration file can hold.  Every one of them has a value of its own where
the file says nothing.
-/

set_option autoImplicit false

namespace Replug

structure Settings where
  logLevel : String
  program : Path
  /-- The longest wait before a detach, in seconds. -/
  maxDelay : UInt64
  count : UInt64
  deriving DecidableEq, Repr

namespace Settings

def default : Settings := ⟨"info", "/usr/sbin/usbip", 3, 65535⟩

instance : Inhabited Settings := ⟨default⟩

def logLevels : List String := ["trace", "debug", "info", "warn", "error"]

inductive Flaw where
  | logLevel (given : String)
  | program
  deriving DecidableEq, Repr

def Flaw.message : Flaw → String
  | .logLevel given =>
    "Invalid log level '" ++ given ++ "', must be one of: " ++ ", ".intercalate logLevels
  | .program => "usbip.program must not be empty"

def flaw? (s : Settings) : Option Flaw :=
  if !logLevels.contains s.logLevel then some (.logLevel s.logLevel)
  else if s.program.isEmpty then some .program
  else none

end Settings

end Replug

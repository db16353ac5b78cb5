import Replug.Cycle
import Replug.Settings
import Replug.Text.Blank

/-!
# From settings to a plan

What the command line gives goes before what the settings say, value by value.  A plan needs a
host, a device and a client; none of them may be missing, and a host or device of nothing but
white space is as good as missing.
-/

set_option autoImplicit false

namespace Replug

structure Overrides where
  maxDelay : Option UInt64
  program : Option Path
  count : Option UInt64
  deriving DecidableEq, Repr

namespace Plan

inductive Lack where
  | remote
  | busId
  | program
  deriving DecidableEq, Repr

def Lack.message : Lack → String
  | .remote => "Remote host must not be empty"
  | .busId => "Bus id must not be empty"
  | .program => "usbip program path must not be empty"

def lack? (plan : Plan) : Option Lack :=
  if Text.allBlank plan.remote then some .remote
  else if Text.allBlank plan.busId then some .busId
  else if plan.program.isEmpty then some .program
  else none

/-- The plan that the given values and the settings make.  A client given on the command line may
begin at the home directory; that of the settings was looked at when they were read. -/
def layered (home : Bytes) (remote busId : String) (overrides : Overrides) (settings : Settings) :
    Plan where
  remote := remote
  busId := busId
  maxDelay := overrides.maxDelay.getD settings.maxDelay
  program := (overrides.program.map (·.expandHome home)).getD settings.program
  count := overrides.count.getD settings.count

def resolve (home : Bytes) (remote busId : String) (overrides : Overrides) (settings : Settings) :
    Except Lack Plan :=
  let plan := layered home remote busId overrides settings
  match plan.lack? with
  | some lack => .error lack
  | none => .ok plan

end Plan

end Replug

import Replug.Failure
import Replug.Log.Filter
import Replug.Text.Utf8

/-!
# Setting up the log

The log is set up once in the life of the program.  The environment may name a filter, which goes
before the level that the settings or the command line name; an unusable one is passed over, but not
one that the reader of filters does not survive.
-/

set_option autoImplicit false

namespace Replug.Log

abbrev State := Option Filter

variable (patterns : Patterns)

def chosenFilter (environment : Option Bytes) (level : String) : Except FilterFault Filter :=
  match environment.bind Bytes.text? with
  | none => Filter.parse patterns level
  | some text =>
    match Filter.parse patterns text with
    | .ok filter => .ok filter
    | .error .uncut => .error .uncut
    | .error _ => Filter.parse patterns level

def unusable (fault : FilterFault) : Failure := .config ("Invalid log filter: " ++ fault.message)

def alreadySetUp : Failure :=
  .config "Logging already initialized: a global default trace dispatcher has already been set"

/-- The log set up, unless the filter is unusable or the log was set up before.  There is no answer
where the reader breaks off. -/
def setup (environment : Option Bytes) (level : String) (state : State) :
    Option (Except Failure Unit) × State :=
  match chosenFilter patterns environment level with
  | .error .uncut => (none, state)
  | .error fault => (some (.error (unusable fault)), state)
  | .ok filter =>
    match state with
    | none => (some (.ok ()), some filter)
    | some _ => (some (.error alreadySetUp), state)

def State.shown (state : State) (records : List Record) : List Record :=
  match state with
  | none => []
  | some filter => records.filter filter.admits

end Replug.Log

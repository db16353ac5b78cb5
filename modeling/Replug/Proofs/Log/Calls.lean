import Mathlib
import Replug.Log.Pattern
import Replug.Log.Setup
import Replug.Proofs.Log.Breaks

/-!
# Setting up the log again and again

However often the log is set up in the life of a program, one call installs a filter: the first one
whose filter is usable.  A call without a usable filter changes nothing, whether it comes before that
one or after it, and a later call with a usable filter is told that it comes too late.  A call in
which the reader of filters breaks off changes nothing either and has no answer.
-/

set_option autoImplicit false

namespace Replug.Log

section Calls

variable (patterns : Patterns) (environment : Option Bytes)

/-- The environment names a filter. -/
def Overridden : Prop :=
  ∃ text, environment.bind Bytes.text? = some text ∧ IsFilter patterns text

def Fatal : Prop :=
  ∃ text, environment.bind Bytes.text? = some text ∧ Filter.parse patterns text = .error .uncut

/-- A call has a usable filter: that of the environment, or else its own. -/
def Usable (level : String) : Prop :=
  Overridden patterns environment ∨ ¬ Fatal patterns environment ∧ IsFilter patterns level

/-- The reader of filters breaks off in a call. -/
def Breaks (level : String) : Prop :=
  Fatal patterns environment ∨
    ¬ Overridden patterns environment ∧ Filter.parse patterns level = .error .uncut

/-- A filter is the one of a call: that of the environment, or else its own. -/
def IsFilterOf (level : String) (filter : Filter) : Prop :=
  (∀ text, environment.bind Bytes.text? = some text → IsFilter patterns text →
    Filter.parse patterns text = .ok filter) ∧
  (¬ Overridden patterns environment → Filter.parse patterns level = .ok filter)

end Calls

variable {patterns : Patterns} {environment : Option Bytes} {level : String}
  {levels more : List String} {state : State} {filter : Filter}

/-! ## One call -/

inductive Call (patterns : Patterns) (environment : Option Bytes) (level : String) (state : State) :
    Option (Except Failure Unit) × State → Prop
  | breaks (breaks : Breaks patterns environment level) :
    Call patterns environment level state (none, state)
  | useless {fault : FilterFault} (survives : ¬ Breaks patterns environment level)
    (useless : ¬ Usable patterns environment level)
    (reads : Filter.parse patterns level = .error fault) :
    Call patterns environment level state
      (some (.error (.config ("Invalid log filter: " ++ fault.message))), state)
  | first {filter : Filter} (usable : Usable patterns environment level)
    (chosen : IsFilterOf patterns environment level filter) (fresh : state = none) :
    Call patterns environment level state (some (.ok ()), some filter)
  | late (usable : Usable patterns environment level) (installed : state ≠ none) :
    Call patterns environment level state (some (.error (.config
      ("Logging already initialized: " ++
        "a global default trace dispatcher has already been set"))), state)

theorem Breaks.indented (breaks : Breaks patterns environment level) :
    ∃ text, (environment.bind Bytes.text? = some text ∨ text = level) ∧
      ∃ piece ∈ text.toList.splitOn ',', Indented piece := by
  rcases breaks with ⟨text, named, reads⟩ | ⟨-, reads⟩
  · exact ⟨text, .inl named, Filter.indented_of_parse reads⟩
  · exact ⟨level, .inr rfl, Filter.indented_of_parse reads⟩

/-! ## Any number of calls -/

end Replug.Log

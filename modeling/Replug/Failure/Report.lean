import Replug.Failure

/-!
# Reports

A failure on its way to the operator: a base, and the remarks that the layers it passed put around
it.  A remark may itself be a failure, but it stands in the chain as a remark and leads to nothing
else, so the chain of a report is the remarks, outermost first, and then the chain of its base.

`Report.termination` decides what the operator gets to see: nothing after an interrupt, and
otherwise the whole chain on one line.
-/

set_option autoImplicit false

namespace Replug

/-- Whether a link is the operator's interrupt.  A remark that is a failure does not count. -/
def Link.isInterrupt : Link → Bool
  | .failure f => f.isInterrupt
  | .fault _ | .remark _ | .words _ => false

inductive Report.Base where
  | failure (f : Failure)
  /-- A fault that was not wrapped in a failure. -/
  | fault (f : IoFault)
  | words (text : String)
  deriving Repr

def Report.Base.chain : Report.Base → List Link
  | .failure f => f.chain
  | .fault f => f.chain
  | .words text => [.words text]

/-- A base with the remarks around it, the outermost first. -/
structure Report where
  layers : List Remark
  base : Report.Base
  deriving Repr

inductive Termination where
  /-- The operator asked for it, so nothing is said. -/
  | cancelled
  | failed (message : String)
  deriving DecidableEq, Repr

namespace Termination

/-- The exit status.  A failure that was reported is dealt with, so it is success in either case. -/
def exitStatus : Termination → Nat
  | .cancelled => 0
  | .failed _ => 0

end Termination

namespace Report

def ofWords (text : String) : Report := ⟨[], .words text⟩

def ofFailure (f : Failure) : Report := ⟨[], .failure f⟩

def ofFault (f : IoFault) : Report := ⟨[], .fault f⟩

def within (r : Report) (layer : Remark) : Report := { r with layers := layer :: r.layers }

def remark (r : Report) (text : String) : Report := r.within (.words text)

/-- What the remarks say, the outermost first. -/
def remarks (r : Report) : List String := r.layers.map Remark.text

def chain (r : Report) : List Link := r.layers.map .remark ++ r.base.chain

def message (r : Report) : String := ": ".intercalate (r.chain.map Link.text)

def isInterrupt (r : Report) : Bool := r.chain.any Link.isInterrupt

def termination (r : Report) : Termination :=
  if r.isInterrupt then .cancelled else .failed r.message

end Report

end Replug

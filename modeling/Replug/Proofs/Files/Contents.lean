import Replug.Proofs.Files.Destinations

/-!
# Contents written and read back

A file that is written as a whole holds exactly the new content and is what the path leads to.
Writing that breaks off leaves the beginning of the content in its place, which may be nothing at all.
A device takes the content and keeps nothing of it.
-/

set_option autoImplicit false

namespace Replug.Files

variable {files files' : Files} {p : Path} {place : Location} {content : Bytes} {runnable : Bool}

/-- A location where a file with some content may be put: it has a file that may be run just as this
one, or nothing, and then a file is made that may not be run. -/
def TakesFile (files : Files) (place : Location) (runnable : Bool) : Prop :=
  (∃ old, files.at? place = some (.file old runnable)) ∨ files.at? place = none ∧ runnable = false

structure Written (p : Path) (content : Bytes) (place : Location) (runnable : Bool)
    (files files' : Files) : Prop where
  below : place ≠ []
  takes : files.TakesFile place runnable
  put : files' = files.put place (.file content runnable)
  led : files'.find p = .ok (.found place (.file content runnable))

/-- What comes of writing a content to a path, and the files after it. -/
inductive Writing (files : Files) (p : Path) (content : Bytes) :
    Option (Except IoFault Unit) → Files → Prop
  /-- Nothing was written: the path leads nowhere, or what it leads to cannot be opened. -/
  | unopened {answer : Option (Except IoFault Unit)} (fails : answer ≠ some (.ok ())) :
    Writing files p content answer files
  | device {place : Location} {gives : Bytes}
    (leads : files.find p = .ok (.found place (.device gives))) :
    Writing files p content (some (.ok ())) files
  | whole {place : Location} {runnable : Bool} {files' : Files}
    (written : Written p content place runnable files files') :
    Writing files p content (some (.ok ())) files'
  | cut {answer : Option (Except IoFault Unit)} {n : Nat} {place : Location} {runnable : Bool}
    {files' : Files} (fails : answer ≠ some (.ok ())) (short : n < content.length)
    (written : Written p (content.take n) place runnable files files') :
    Writing files p content answer files'

theorem read_of_find {entry : Entry} (leads : files.find p = .ok (.found place entry))
    (granted : (files.termsAt place).reading = .given) : files.read p = some (contentOf entry) := by
  simp only [read, leads, granted]

end Replug.Files

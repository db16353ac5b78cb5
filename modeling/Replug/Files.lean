import Replug.Failure.SystemCode
import Replug.Path

/-!
# Files

What a file system holds: at every location a directory, a file, a link to somewhere else, or a
device.  A location is the list of names that lead to it from the root, which is a directory
always.  The system may grant a program less than what is there would allow: it may refuse to go
through a directory, to read, to write or to make something, let it wait for ever, or have no room for
all that is to be written.

This module knows locations only.  How a path leads to one is said in `Replug.Files.Lookup`, and
what programs do with paths in `Replug.Files.Access`.
-/

set_option autoImplicit false

namespace Replug

inductive Entry where
  | directory
  /-- A file: its content, and whether it may be run. -/
  | file (content : Bytes) (runnable : Bool)
  /-- A link, which stands for what its path leads to. -/
  | link (target : Path)
  /-- A device: it takes everything and keeps nothing, and gives what it gives. -/
  | device (gives : Bytes)
  deriving DecidableEq, Repr

/-- The names that lead from the root to a place. -/
abbrev Location := List Bytes

/-- How far the system lets a program come with what it asks for. -/
inductive Grant where
  | given
  | refused (code : SystemCode)
  /-- The program waits for ever. -/
  | endless
  deriving DecidableEq, Repr

/-- The terms on which a location can be used. -/
structure Terms where
  /-- The fault of a way through it. -/
  passing : Option SystemCode := none
  /-- The fault of making something there. -/
  making : Option SystemCode := none
  reading : Grant := .given
  writing : Grant := .given
  /-- How many bytes can be written there, and the fault of the next one, which there is none of if
  that waits for ever. -/
  room : Option (Nat × Option SystemCode) := none
  deriving DecidableEq, Repr

structure Files where
  entries : List (Location × Entry)
  workingDirectory : Location
  /-- The locations that cannot be used without restraint. -/
  terms : List (Location × Terms) := []
  deriving DecidableEq, Repr

namespace Files

def at? (files : Files) (place : Location) : Option Entry :=
  match place with
  | [] => some .directory
  | _ => files.entries.lookup place

def termsAt (files : Files) (place : Location) : Terms := (files.terms.lookup place).getD {}

def put (files : Files) (place : Location) (entry : Entry) : Files :=
  { files with entries := (place, entry) :: files.entries.filter fun e => e.1 ≠ place }

def clear (files : Files) (place : Location) : Files :=
  { files with entries := files.entries.filter fun e => e.1 ≠ place }

/-- The order of names: byte by byte, a shorter name first. -/
def nameBefore : Bytes → Bytes → Bool
  | [], _ => true
  | _ :: _, [] => false
  | a :: as, b :: bs => if a = b then nameBefore as bs else a < b

/-- The order of locations in a listing: what a directory holds follows on it, by name. -/
def listedBefore : Location → Location → Bool
  | [], _ => true
  | _ :: _, [] => false
  | a :: as, b :: bs => if a = b then listedBefore as bs else nameBefore a b

def below? : Location → Location → Option Location
  | [], place => some place
  | _ :: _, [] => none
  | a :: as, b :: bs => if a = b then below? as bs else none

def listing (files : Files) (top : Location) : List (Location × Entry) :=
  let inside := files.entries.filterMap fun (place, entry) =>
    match below? top place with
    | none | some [] => none
    | some way => some (way, entry)
  inside.mergeSort fun a b => listedBefore a.1 b.1

end Files

end Replug

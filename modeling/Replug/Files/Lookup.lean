import Replug.Files

/-!
# Where a path leads

A path is followed name by name.  Every name but the last must be one of a directory, or of a link
that leads to one; the last name may be one that nothing has yet.  A slash or a dot at the end asks
for a directory.
-/

set_option autoImplicit false

namespace Replug.Files

def longestName : Nat := 255

/-- The bytes from which a path is refused. -/
def longestPath : Nat := 4096

def mostLinks : Nat := 40

inductive Destination where
  /-- To something that is there. -/
  | found (place : Location) (entry : Entry)
  /-- To a name that nothing has yet, in a directory that is there. -/
  | vacant (directory : Location) (name : Bytes)
  deriving DecidableEq, Repr

/-- The location above another one; the root is above itself. -/
def up (place : Location) : Location := place.dropLast

def steps (p : Path) : List Bytes := (Path.segments p.bytes).filter fun s => !Path.isIdle s

def asksForDirectory (p : Path) : Bool :=
  match (Path.segments p.bytes).getLast? with
  | some last => Path.isIdle last || last = Path.above
  | none => false

/-- Whether the last name of a path is the one for the place itself, which is never vacant. -/
def endsInDot (p : Path) : Bool :=
  ((Path.segments p.bytes).filter (· ≠ [])).getLast? = some Path.here

/-- Whether names may be looked for in a location. -/
def enter (files : Files) (place : Location) : Except SystemCode Unit :=
  match files.at? place with
  | none => .error .noEntry
  | some .directory =>
    match (files.termsAt place).passing with
    | some code => .error code
    | none => .ok ()
  | some _ => .error .notDirectory

/-- The names followed from a location.  `follow` goes on where a link leads. -/
def along (files : Files) (follow : Location → List Bytes → Except SystemCode Destination) :
    Location → List Bytes → Except SystemCode Destination
  | place, [] =>
    match files.at? place with
    | some entry => .ok (.found place entry)
    | none => .error .noEntry
  | place, name :: rest =>
    match files.enter place with
    | .error code => .error code
    | .ok () =>
      if name = Path.above then along files follow (up place) rest
      else if longestName < name.length then .error .nameTooLong
      else
        let next := place ++ [name]
        match files.at? next with
        | some (.link target) =>
          follow (if target.isAbsolute then [] else place) (steps target ++ rest)
        | some _ => along files follow next rest
        | none => if rest.isEmpty then .ok (.vacant place name) else .error .noEntry

def walk (files : Files) : Nat → Location → List Bytes → Except SystemCode Destination
  | 0, _, _ => .error .tooManyLinks
  | links + 1, place, names => along files (walk files links) place names

def startOf (files : Files) (p : Path) : Location :=
  if p.isAbsolute then [] else files.workingDirectory

def lookup (files : Files) (p : Path) : Except SystemCode Destination :=
  if p.isEmpty then .error .noEntry
  else if longestPath ≤ p.bytes.length then .error .nameTooLong
  else
    match walk files (mostLinks + 1) (startOf files p) (steps p) with
    | .error code => .error code
    | .ok (.found place entry) =>
      if asksForDirectory p && entry ≠ .directory then .error .notDirectory
      else .ok (.found place entry)
    | .ok (.vacant directory name) =>
      if endsInDot p then .error .noEntry else .ok (.vacant directory name)

def endsInSlash (p : Path) : Bool :=
  let pieces := Path.segments p.bytes
  match (pieces.filter (· ≠ [])).getLast? with
  | some name => pieces.getLast? = some [] && name ≠ Path.here && name ≠ Path.above
  | none => false

/-- Where a path leads that is to be written to.  A name with a slash after it can only be one of a
directory, and what it leads to is not looked at. -/
def lookupTarget (files : Files) (p : Path) : Except SystemCode Destination :=
  if endsInSlash p && p.bytes.length < longestPath then
    match walk files (mostLinks + 1) (startOf files p) (steps p).dropLast with
    | .error code => .error code
    | .ok (.found place _) =>
      match files.enter place with
      | .error code => .error code
      | .ok () => .error .isDirectory
    | .ok (.vacant _ _) => .error .noEntry
  else lookup files p

/-- The name that a path gives to something new in a directory.  A path may have none, such as one
that ends in a dot or goes up last. -/
def newName? (p : Path) : Option Bytes :=
  if endsInDot p then none else (steps p).getLast?.filter (· ≠ Path.above)

/-- Where something new would stand under a path.  A link there is not followed: the name is
taken. -/
def lookupNew (files : Files) (p : Path) : Except SystemCode Location :=
  if p.isEmpty then .error .noEntry
  else if longestPath ≤ p.bytes.length then .error .nameTooLong
  else
    let names := match newName? p with
      | some _ => (steps p).dropLast
      | none => steps p
    match walk files (mostLinks + 1) (startOf files p) names, newName? p with
    | .error code, _ => .error code
    | .ok (.vacant _ _), _ => .error .noEntry
    | .ok (.found place _), some name =>
      match files.enter place with
      | .error code => .error code
      | .ok () =>
        if longestName < name.length then .error .nameTooLong
        else if (files.at? (place ++ [name])).isSome then .error .alreadyExists
        else .ok (place ++ [name])
    | .ok (.found _ .directory), none => .error .alreadyExists
    | .ok (.found _ _), none => .error .notDirectory

end Replug.Files

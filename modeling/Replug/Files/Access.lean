import Replug.Failure
import Replug.Files.Lookup

/-!
# What programs do with paths

Reading, writing, and making directories.  A path with a zero byte in it never reaches the system.
What may wait for ever answers with nothing then.
-/

set_option autoImplicit false

namespace Replug.Files

def zeroByteFault : IoFault :=
  .described .invalidInput "file name contained an unexpected NUL byte"

def notTextFault : IoFault := .described .invalidData "stream did not contain valid UTF-8"

def find (files : Files) (p : Path) : Except IoFault Destination :=
  if p.bytes.contains 0 then .error zeroByteFault
  else (files.lookup p).mapError .system

def findTarget (files : Files) (p : Path) : Except IoFault Destination :=
  if p.bytes.contains 0 then .error zeroByteFault
  else (files.lookupTarget p).mapError .system

def pathExists (files : Files) (p : Path) : Bool :=
  match files.find p with
  | .ok (.found _ _) => true
  | _ => false

def isDirectory (files : Files) (p : Path) : Bool :=
  match files.find p with
  | .ok (.found _ .directory) => true
  | _ => false

def contentOf : Entry → Except IoFault Bytes
  | .file content _ => .ok content
  | .device gives => .ok gives
  | .directory => .error (.system .isDirectory)
  | .link _ => .error (.system .noEntry)

def read (files : Files) (p : Path) : Option (Except IoFault Bytes) :=
  match files.find p with
  | .error fault => some (.error fault)
  | .ok (.vacant _ _) => some (.error (.system .noEntry))
  | .ok (.found place entry) =>
    match (files.termsAt place).reading with
    | .given => some (contentOf entry)
    | .refused code => some (.error (.system code))
    | .endless => none

def textOf (content : Bytes) : Except IoFault String :=
  match content.text? with
  | some text => .ok text
  | none => .error notTextFault

def readText (files : Files) (p : Path) : Option (Except IoFault String) :=
  (files.read p).map fun answer => answer.bind textOf

/-- How a content is written to a location: the bytes of it that are taken, and what comes of it. -/
def taken (files : Files) (place : Location) (content : Bytes) :
    Bytes × Option (Except IoFault Unit) :=
  match (files.termsAt place).room with
  | none => (content, some (.ok ()))
  | some (room, fault) =>
    if room < content.length then (content.take room, fault.map fun code => .error (.system code))
    else (content, some (.ok ()))

/-- A file emptied, or made, and then filled with a content as far as it is taken. -/
def fill (files : Files) (place : Location) (content : Bytes) (runnable : Bool) :
    Option (Except IoFault Unit) × Files :=
  let (bytes, answer) := files.taken place content
  (answer, files.put place (.file bytes runnable))

def write (files : Files) (p : Path) (content : Bytes) : Option (Except IoFault Unit) × Files :=
  match files.findTarget p with
  | .error fault => (some (.error fault), files)
  | .ok (.vacant directory name) =>
    match (files.termsAt (directory ++ [name])).making with
    | some code => (some (.error (.system code)), files)
    | none => files.fill (directory ++ [name]) content false
  | .ok (.found _ .directory) => (some (.error (.system .isDirectory)), files)
  | .ok (.found _ (.link _)) => (some (.error (.system .noEntry)), files)
  | .ok (.found place entry) =>
    match (files.termsAt place).writing, entry with
    | .refused code, _ => (some (.error (.system code)), files)
    | .endless, _ => (none, files)
    | .given, .file _ runnable => files.fill place content runnable
    | .given, _ => ((files.taken place content).2, files)

/-- The content of what a path leads to, for a program that does not wait. -/
def readNow (files : Files) (p : Path) : Except IoFault Bytes :=
  (files.read p).getD (.error (.plain .wouldBlock))

def writeNow (files : Files) (p : Path) (content : Bytes) : Except IoFault Files :=
  match files.write p content with
  | (none, _) => .error (.plain .wouldBlock)
  | (some (.error fault), _) => .error fault
  | (some (.ok ()), files) => .ok files

def makeDirectory (files : Files) (p : Path) : Except IoFault Files :=
  if p.bytes.contains 0 then .error zeroByteFault
  else
    match files.lookupNew p with
    | .error code => .error (.system code)
    | .ok place =>
      match (files.termsAt place).making with
      | some code => .error (.system code)
      | none => .ok (files.put place .directory)

def isMissing : IoFault → Bool
  | .system code => code = .noEntry
  | _ => false

/-- A directory made where the ones above it are there.  One that is there already is fine. -/
def ensureDirectory (files : Files) (p : Path) : Except IoFault Files :=
  match files.makeDirectory p with
  | .ok files => .ok files
  | .error fault => if files.isDirectory p then .ok files else .error fault

/-- A directory made along with the missing ones above it.  The files are given back also when it
fails, with those that were made. -/
def ensureAbove : Nat → Files → Path → Except IoFault Unit × Files
  | 0, files, _ => (.ok (), files)
  | fuel + 1, files, p =>
    if p.isEmpty then (.ok (), files)
    else
      match files.ensureDirectory p with
      | .ok files => (.ok (), files)
      | .error fault =>
        match isMissing fault, p.parent? with
        | true, some parent =>
          match ensureAbove fuel files parent with
          | (.error fault, files) => (.error fault, files)
          | (.ok (), files) =>
            match files.ensureDirectory p with
            | .ok files => (.ok (), files)
            | .error fault => (.error fault, files)
        | _, _ => (.error fault, files)

/-- A directory made along with all missing ones above it.  Every step up makes the path shorter. -/
def ensureTree (files : Files) (p : Path) : Except IoFault Unit × Files :=
  ensureAbove (p.bytes.length + 1) files p

/-- The files with a file at a path, and the directories above it.  What cannot be done is left
undone. -/
def install (files : Files) (p : Path) (content : Bytes) (runnable : Bool) : Files :=
  let files := match p.parent? with
    | some parent => (files.ensureTree parent).2
    | none => files
  match files.writeNow p content with
  | .error _ => files
  | .ok files =>
    match files.find p with
    | .ok (.found place (.file _ _)) => files.put place (.file content runnable)
    | _ => files

def remove (files : Files) (p : Path) : Files :=
  match files.find p with
  | .ok (.found place (.file _ _)) => files.clear place
  | _ => files

end Replug.Files
